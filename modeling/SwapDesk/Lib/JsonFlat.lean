import SwapDesk.Lib.JsonSyntax

/-!
# Flat JSON texts

A JSON text of an array or an object whose values are all strings, and what it says. A string
says the characters that its escapes stand for; half of a surrogate pair stands for nothing, so
a string with one says nothing. The fields of an object keep their order, and one that is there
twice is there twice.

Main result: `Says.unique`, that a text says one thing at most.
-/

namespace JsonSyntax

/-! ## Strings -/

def hexValue (digits : List Char) : Nat :=
  digits.foldl (fun n c => 16 * n + (Hex.value? c).getD 0) 0

/-- The code unit that an item is written for. -/
def StringItem.unit : StringItem → Nat
  | .plain c _ => c.toNat
  | .escape c _ => ((JsonText.unescape? c).getD c).toNat
  | .unicode digits _ => hexValue digits

/-- The characters of the code units, where every surrogate is half of a pair. -/
def joinPairs : List Nat → Option (List Char)
  | [] => some []
  | [n] => if JsonText.isHighSurrogate n || JsonText.isLowSurrogate n then none
    else some [Char.ofNat n]
  | hi :: lo :: rest =>
    if JsonText.isHighSurrogate hi && JsonText.isLowSurrogate lo then
      (joinPairs rest).map (Char.ofNat (0x10000 + (hi - 0xD800) * 0x400 + (lo - 0xDC00)) :: ·)
    else if JsonText.isHighSurrogate hi || JsonText.isLowSurrogate hi then none
    else (joinPairs (lo :: rest)).map (Char.ofNat hi :: ·)

def StringText.says? (text : StringText) : Option String :=
  (joinPairs (text.map StringItem.unit)).map String.ofList

/-! ## Values -/

def Items.values : Items → List Value
  | .one _ value _ => [value]
  | .more _ value _ rest => value :: rest.values

def Members.entries : Members → List (StringText × Value)
  | .one _ key _ _ value _ => [(key, value)]
  | .more _ key _ _ value _ rest => (key, value) :: rest.entries

def Value.text? : Value → Option String
  | .string text => text.says?
  | _ => none

/-- A member whose value is a string. -/
def field? (entry : StringText × Value) : Option (String × String) := do
  return (← entry.1.says?, ← entry.2.text?)

/-- What an array or an object of strings says; nothing for another value. -/
def Value.flat? : Value → Option Json
  | .emptyArray _ => some (.arr [])
  | .array items => (items.values.mapM Value.text?).map fun texts => .arr (texts.map .str)
  | .emptyObject _ => some (.obj [])
  | .object members => (members.entries.mapM field?).map fun fields =>
      .obj (fields.map fun f => (f.1, .str f.2))
  | _ => none

/-- An array of strings, or an object whose values are strings. -/
def IsFlat : Json → Prop
  | .arr items => ∀ item ∈ items, ∃ s, item = .str s
  | .obj fields => ∀ field ∈ fields, ∃ s, field.2 = .str s
  | _ => False

/-- The text is a JSON text of this flat value. -/
def Says (text : List Char) (v : Json) : Prop :=
  ∃ before value after, text = Line.print (.value before value after) ∧ value.flat? = some v

/-! ## A text says one thing -/

/-- White space is told by the character after it. -/
theorem ws_inj {a b : Ws} {c d : Char} {rest more : List Char} (hc : isWs c = false)
    (hd : isWs d = false) (h : a.val ++ c :: rest = b.val ++ d :: more) : c = d ∧ rest = more := by
  have hSpan : ∀ (ws : Ws) (e : Char) (tail : List Char), isWs e = false →
      (ws.val ++ e :: tail).dropWhile isWs = e :: tail := by
    intro ws e tail he
    rw [List.dropWhile_append_of_pos (List.all_eq_true.mp ws.property),
      List.dropWhile_cons_of_neg (by simp [he])]
  have hDrop := congrArg (List.dropWhile isWs) h
  rw [hSpan a c rest hc, hSpan b d more hd] at hDrop
  exact List.cons.inj hDrop

/-- A string is told by its closing quote. -/
theorem string_inj {a b : StringText} {rest more : List Char}
    (h : StringText.print a ++ '"' :: rest = StringText.print b ++ '"' :: more) :
    a = b ∧ rest = more := by
  induction a generalizing b with
  | nil =>
    cases b with
    | nil => exact ⟨rfl, List.tail_eq_of_cons_eq h⟩
    | cons item b =>
      cases item with
      | plain c hc => exact absurd (List.head_eq_of_cons_eq h).symm hc.1
      | escape c hc => exact absurd (List.head_eq_of_cons_eq h) (by decide)
      | unicode digits hd => exact absurd (List.head_eq_of_cons_eq h) (by decide)
  | cons item a ih =>
    have hItem : ∀ (i : StringItem) (t : StringText) (u : List Char),
        StringText.print (i :: t) ++ u = i.print ++ (StringText.print t ++ u) := by
      intro i t u
      rw [StringText.print, List.flatMap_cons, List.append_assoc, StringText.print]
    cases b with
    | nil =>
      rw [hItem] at h
      cases item with
      | plain c hc => exact absurd (List.head_eq_of_cons_eq h) hc.1
      | escape c hc => exact absurd (List.head_eq_of_cons_eq h) (by decide)
      | unicode digits hd => exact absurd (List.head_eq_of_cons_eq h) (by decide)
    | cons other b =>
      rw [hItem, hItem] at h
      -- the first character, and after a backslash the second, tell how the item is written
      cases item with
      | plain c hc =>
        cases other with
        | plain d hd =>
          obtain ⟨rfl, hTail⟩ := List.cons.inj h
          obtain ⟨rfl, hRest⟩ := ih hTail
          exact ⟨rfl, hRest⟩
        | escape d hd => exact absurd (List.head_eq_of_cons_eq h) hc.2.1
        | unicode digits hd => exact absurd (List.head_eq_of_cons_eq h) hc.2.1
      | escape c hc =>
        cases other with
        | plain d hd => exact absurd (List.head_eq_of_cons_eq h).symm hd.2.1
        | escape d hd =>
          obtain ⟨rfl, hTail⟩ := List.cons.inj (List.tail_eq_of_cons_eq h)
          obtain ⟨rfl, hRest⟩ := ih hTail
          exact ⟨rfl, hRest⟩
        | unicode digits hd =>
          obtain ⟨rfl, -⟩ := List.cons.inj (List.tail_eq_of_cons_eq h)
          exact absurd hc (by decide)
      | unicode digits hd =>
        cases other with
        | plain d hd' => exact absurd (List.head_eq_of_cons_eq h).symm hd'.2.1
        | escape d hd' =>
          obtain ⟨rfl, -⟩ := List.cons.inj (List.tail_eq_of_cons_eq h)
          exact absurd hd' (by decide)
        | unicode digits' hd' =>
          have hTail := List.tail_eq_of_cons_eq (List.tail_eq_of_cons_eq h)
          obtain ⟨rfl, hMore⟩ := List.append_inj hTail (hd.1.trans hd'.1.symm)
          obtain ⟨rfl, hRest⟩ := ih hMore
          exact ⟨rfl, hRest⟩

/-- A string among the items of an array. -/
theorem text?_eq_some {v : Value} {s : String} (h : v.text? = some s) :
    ∃ text, v = .string text ∧ text.says? = some s := by
  cases v with
  | string text => exact ⟨text, rfl, h⟩
  | _ => cases h

/-- A flat member is a key and a string. -/
theorem field?_eq_some {entry : StringText × Value} {field : String × String}
    (h : field? entry = some field) : ∃ text, entry.2 = .string text ∧
      entry.1.says? = some field.1 ∧ text.says? = some field.2 := by
  unfold field? at h
  simp only [Option.bind_eq_bind, Option.bind_eq_some_iff, Option.pure_def,
    Option.some.injEq] at h
  obtain ⟨key, hKey, s, hText, rfl⟩ := h
  obtain ⟨text, hValue, hSays⟩ := text?_eq_some hText
  exact ⟨text, hValue, hKey, hSays⟩

/-- A list is mapped element by element. -/
theorem mapM_cons_eq_some {α γ : Type} {f : α → Option γ} {a : α} {l : List α} {cs : List γ}
    (h : (a :: l).mapM f = some cs) :
    ∃ c rest, f a = some c ∧ l.mapM f = some rest ∧ cs = c :: rest := by
  simp only [List.mapM_cons, Option.bind_eq_bind, Option.bind_eq_some_iff, Option.pure_def,
    Option.some.injEq] at h
  obtain ⟨c, hc, rest, hRest, rfl⟩ := h
  exact ⟨c, rest, hc, hRest, rfl⟩

/-- A string behind white space, and what follows it. -/
def spaced (before : Ws) (text : StringText) (more : List Char) : List Char :=
  before.val ++ '"' :: (StringText.print text ++ '"' :: more)

/-- A string is told with the white space around it. -/
theorem spaced_inj {a b : Ws} {s t : StringText} {rest more : List Char}
    (h : spaced a s rest = spaced b t more) : s = t ∧ rest = more :=
  string_inj (ws_inj (by decide) (by decide) h).2

/-- What follows white space and a character that is none. -/
theorem not_ws_inj {a b : Ws} {c d : Char} {rest more : List Char} (hc : isWs c = false)
    (hd : isWs d = false) (hne : c ≠ d) : a.val ++ c :: rest ≠ b.val ++ d :: more :=
  fun h => hne (ws_inj hc hd h).1

/-- The last item of an array. -/
theorem print_one {before after : Ws} {text : StringText} (tail : List Char) :
    (Items.one before (.string text) after).print ++ tail =
      spaced before text (after.val ++ tail) := by
  simp [Items.print, Value.print, spaced]

/-- An item of an array with more to come. -/
theorem print_more {before after : Ws} {text : StringText} {items : Items} (tail : List Char) :
    (Items.more before (.string text) after items).print ++ tail =
      spaced before text (after.val ++ ',' :: (items.print ++ tail)) := by
  simp [Items.print, Value.print, spaced]

/-- The items of an array of strings, up to its end. -/
theorem items_inj {rest more : List Char} : ∀ {a b : Items} {texts texts' : List String},
    a.values.mapM Value.text? = some texts → b.values.mapM Value.text? = some texts' →
    a.print ++ ']' :: rest = b.print ++ ']' :: more → texts = texts' ∧ rest = more
  | .one x v y, .one x' v' y', texts, texts', ha, hb, h => by
    -- both lists end here
    obtain ⟨s, tail, hv, hTail, rfl⟩ := mapM_cons_eq_some ha
    obtain ⟨s', tail', hv', hTail', rfl⟩ := mapM_cons_eq_some hb
    obtain ⟨text, rfl, hText⟩ := text?_eq_some hv
    obtain ⟨text', rfl, hText'⟩ := text?_eq_some hv'
    rw [print_one, print_one] at h
    obtain ⟨rfl, hEnd⟩ := spaced_inj h
    rw [Option.some.inj (hText.symm.trans hText'), Option.some.inj (hTail.symm.trans hTail')]
    exact ⟨rfl, (ws_inj (by decide) (by decide) hEnd).2⟩
  | .one x v y, .more x' v' y' items', texts, texts', ha, hb, h => by
    -- one ends where the other goes on, so the next characters differ
    obtain ⟨s, tail, hv, -, -⟩ := mapM_cons_eq_some ha
    obtain ⟨s', tail', hv', -, -⟩ := mapM_cons_eq_some hb
    obtain ⟨text, rfl, -⟩ := text?_eq_some hv
    obtain ⟨text', rfl, -⟩ := text?_eq_some hv'
    rw [print_one, print_more] at h
    exact absurd (spaced_inj h).2 (not_ws_inj (by decide) (by decide) (by decide))
  | .more x v y items, .one x' v' y', texts, texts', ha, hb, h => by
    obtain ⟨s, tail, hv, -, -⟩ := mapM_cons_eq_some ha
    obtain ⟨s', tail', hv', -, -⟩ := mapM_cons_eq_some hb
    obtain ⟨text, rfl, -⟩ := text?_eq_some hv
    obtain ⟨text', rfl, -⟩ := text?_eq_some hv'
    rw [print_one, print_more] at h
    exact absurd (spaced_inj h).2 (not_ws_inj (by decide) (by decide) (by decide))
  | .more x v y items, .more x' v' y' items', texts, texts', ha, hb, h => by
    -- both go on
    obtain ⟨s, tail, hv, hTail, rfl⟩ := mapM_cons_eq_some ha
    obtain ⟨s', tail', hv', hTail', rfl⟩ := mapM_cons_eq_some hb
    obtain ⟨text, rfl, hText⟩ := text?_eq_some hv
    obtain ⟨text', rfl, hText'⟩ := text?_eq_some hv'
    rw [print_more, print_more] at h
    obtain ⟨rfl, hMore⟩ := spaced_inj h
    obtain ⟨rfl, hEnd⟩ := items_inj hTail hTail' (ws_inj (by decide) (by decide) hMore).2
    rw [Option.some.inj (hText.symm.trans hText')]
    exact ⟨rfl, hEnd⟩

/-- The last member of an object. -/
theorem print_member {before beforeColon afterColon after : Ws} {key text : StringText}
    (tail : List Char) :
    (Members.one before key beforeColon afterColon (.string text) after).print ++ tail =
      spaced before key (beforeColon.val ++ ':' :: spaced afterColon text (after.val ++ tail)) := by
  simp [Members.print, Value.print, spaced]

/-- A member of an object with more to come. -/
theorem print_members {before beforeColon afterColon after : Ws} {key text : StringText}
    {members : Members} (tail : List Char) :
    (Members.more before key beforeColon afterColon (.string text) after members).print ++ tail =
      spaced before key (beforeColon.val ++ ':' ::
        spaced afterColon text (after.val ++ ',' :: (members.print ++ tail))) := by
  simp [Members.print, Value.print, spaced]

/-- One member and what follows its value. -/
theorem member_inj {x p q x' p' q' : Ws} {key text key' text' : StringText}
    {rest more : List Char}
    (h : spaced x key (p.val ++ ':' :: spaced q text rest) =
      spaced x' key' (p'.val ++ ':' :: spaced q' text' more)) :
    key = key' ∧ text = text' ∧ rest = more := by
  obtain ⟨hKey, hColon⟩ := spaced_inj h
  obtain ⟨hText, hRest⟩ := spaced_inj (ws_inj (by decide) (by decide) hColon).2
  exact ⟨hKey, hText, hRest⟩

/-- The members of an object of strings, up to its end. -/
theorem members_inj {rest more : List Char} :
    ∀ {a b : Members} {fields fields' : List (String × String)},
    a.entries.mapM field? = some fields → b.entries.mapM field? = some fields' →
    a.print ++ '}' :: rest = b.print ++ '}' :: more → fields = fields' ∧ rest = more
  | .one x k p q v y, .one x' k' p' q' v' y', fields, fields', ha, hb, h => by
    -- both objects end here
    obtain ⟨f, tail, hf, hTail, rfl⟩ := mapM_cons_eq_some ha
    obtain ⟨f', tail', hf', hTail', rfl⟩ := mapM_cons_eq_some hb
    obtain ⟨text, rfl, hKey, hText⟩ := field?_eq_some hf
    obtain ⟨text', rfl, hKey', hText'⟩ := field?_eq_some hf'
    rw [print_member, print_member] at h
    obtain ⟨rfl, rfl, hEnd⟩ := member_inj h
    have hField : f = f' := Prod.ext (Option.some.inj (hKey.symm.trans hKey'))
      (Option.some.inj (hText.symm.trans hText'))
    rw [hField, Option.some.inj (hTail.symm.trans hTail')]
    exact ⟨rfl, (ws_inj (by decide) (by decide) hEnd).2⟩
  | .one x k p q v y, .more x' k' p' q' v' y' members', fields, fields', ha, hb, h => by
    -- one ends where the other goes on
    obtain ⟨f, tail, hf, -, -⟩ := mapM_cons_eq_some ha
    obtain ⟨f', tail', hf', -, -⟩ := mapM_cons_eq_some hb
    obtain ⟨text, rfl, -⟩ := field?_eq_some hf
    obtain ⟨text', rfl, -⟩ := field?_eq_some hf'
    rw [print_member, print_members] at h
    exact absurd (member_inj h).2.2 (not_ws_inj (by decide) (by decide) (by decide))
  | .more x k p q v y members, .one x' k' p' q' v' y', fields, fields', ha, hb, h => by
    obtain ⟨f, tail, hf, -, -⟩ := mapM_cons_eq_some ha
    obtain ⟨f', tail', hf', -, -⟩ := mapM_cons_eq_some hb
    obtain ⟨text, rfl, -⟩ := field?_eq_some hf
    obtain ⟨text', rfl, -⟩ := field?_eq_some hf'
    rw [print_member, print_members] at h
    exact absurd (member_inj h).2.2 (not_ws_inj (by decide) (by decide) (by decide))
  | .more x k p q v y members, .more x' k' p' q' v' y' members', fields, fields', ha, hb, h => by
    -- both go on
    obtain ⟨f, tail, hf, hTail, rfl⟩ := mapM_cons_eq_some ha
    obtain ⟨f', tail', hf', hTail', rfl⟩ := mapM_cons_eq_some hb
    obtain ⟨text, rfl, hKey, hText⟩ := field?_eq_some hf
    obtain ⟨text', rfl, hKey', hText'⟩ := field?_eq_some hf'
    rw [print_members, print_members] at h
    obtain ⟨rfl, rfl, hMore⟩ := member_inj h
    obtain ⟨rfl, hEnd⟩ := members_inj hTail hTail' (ws_inj (by decide) (by decide) hMore).2
    have hField : f = f' := Prod.ext (Option.some.inj (hKey.symm.trans hKey'))
      (Option.some.inj (hText.symm.trans hText'))
    exact ⟨congrArg (· :: tail) hField, hEnd⟩

/-- What stands between the brackets of an array of these strings. -/
def ArrayBody (inner : List Char) (texts : List String) : Prop :=
  (∃ space : Ws, inner = space.val ∧ texts = []) ∨
    ∃ items : Items, inner = items.print ∧ items.values.mapM Value.text? = some texts

/-- What stands between the braces of an object of these fields. -/
def ObjectBody (inner : List Char) (fields : List (String × String)) : Prop :=
  (∃ space : Ws, inner = space.val ∧ fields = []) ∨
    ∃ members : Members, inner = members.print ∧ members.entries.mapM field? = some fields

/-- A flat value prints as an array or an object of strings. -/
theorem print_of_flat {value : Value} {v : Json} (h : value.flat? = some v) :
    (∃ inner texts, value.print = '[' :: (inner ++ [']']) ∧ ArrayBody inner texts ∧
      v = .arr (texts.map .str)) ∨
    ∃ inner fields, value.print = '{' :: (inner ++ ['}']) ∧ ObjectBody inner fields ∧
      v = .obj (fields.map fun f => (f.1, .str f.2)) := by
  cases value with
  | emptyArray space =>
    obtain rfl := Option.some.inj h
    exact .inl ⟨space.val, [], rfl, .inl ⟨space, rfl, rfl⟩, rfl⟩
  | array items =>
    obtain ⟨texts, hTexts, rfl⟩ := Option.map_eq_some_iff.mp h
    exact .inl ⟨items.print, texts, rfl, .inr ⟨items, rfl, hTexts⟩, rfl⟩
  | emptyObject space =>
    obtain rfl := Option.some.inj h
    exact .inr ⟨space.val, [], rfl, .inl ⟨space, rfl, rfl⟩, rfl⟩
  | object members =>
    obtain ⟨fields, hFields, rfl⟩ := Option.map_eq_some_iff.mp h
    exact .inr ⟨members.print, fields, rfl, .inr ⟨members, rfl, hFields⟩, rfl⟩
  | _ => cases h

/-- The items of an array of strings begin with a string. -/
theorem items_head {items : Items} {texts : List String}
    (h : items.values.mapM Value.text? = some texts) (tail : List Char) :
    ∃ before text rest, items.print ++ tail = spaced before text rest := by
  cases items with
  | one before value after =>
    obtain ⟨s, -, hValue, -⟩ := mapM_cons_eq_some h
    obtain ⟨text, rfl, -⟩ := text?_eq_some hValue
    exact ⟨before, text, _, print_one tail⟩
  | more before value after items =>
    obtain ⟨s, -, hValue, -⟩ := mapM_cons_eq_some h
    obtain ⟨text, rfl, -⟩ := text?_eq_some hValue
    exact ⟨before, text, _, print_more tail⟩

/-- A body of members begins with a string. -/
theorem members_head {members : Members} {fields : List (String × String)}
    (h : members.entries.mapM field? = some fields) (tail : List Char) :
    ∃ before text rest, members.print ++ tail = spaced before text rest := by
  cases members with
  | one before key beforeColon afterColon value after =>
    obtain ⟨f, -, hField, -⟩ := mapM_cons_eq_some h
    obtain ⟨text, rfl, -⟩ := field?_eq_some hField
    exact ⟨before, key, _, print_member tail⟩
  | more before key beforeColon afterColon value after members =>
    obtain ⟨f, -, hField, -⟩ := mapM_cons_eq_some h
    obtain ⟨text, rfl, -⟩ := field?_eq_some hField
    exact ⟨before, key, _, print_members tail⟩

/-- The text of an array tells its items. -/
theorem ArrayBody.inj {inner inner' : List Char} {texts texts' : List String}
    {rest more : List Char} (h : ArrayBody inner texts) (h' : ArrayBody inner' texts')
    (hText : inner ++ ']' :: rest = inner' ++ ']' :: more) : texts = texts' := by
  rcases h with ⟨space, rfl, rfl⟩ | ⟨items, rfl, hItems⟩ <;>
    rcases h' with ⟨space', rfl, rfl⟩ | ⟨items', rfl, hItems'⟩
  · rfl
  · obtain ⟨before, text, tail, hHead⟩ := items_head hItems' (']' :: more)
    rw [hHead] at hText
    exact absurd hText (not_ws_inj (by decide) (by decide) (by decide))
  · obtain ⟨before, text, tail, hHead⟩ := items_head hItems (']' :: rest)
    rw [hHead] at hText
    exact absurd hText (not_ws_inj (by decide) (by decide) (by decide))
  · exact (items_inj hItems hItems' hText).1

/-- The text of an object tells its fields. -/
theorem ObjectBody.inj {inner inner' : List Char} {fields fields' : List (String × String)}
    {rest more : List Char} (h : ObjectBody inner fields) (h' : ObjectBody inner' fields')
    (hText : inner ++ '}' :: rest = inner' ++ '}' :: more) : fields = fields' := by
  rcases h with ⟨space, rfl, rfl⟩ | ⟨members, rfl, hMembers⟩ <;>
    rcases h' with ⟨space', rfl, rfl⟩ | ⟨members', rfl, hMembers'⟩
  · rfl
  · obtain ⟨before, text, tail, hHead⟩ := members_head hMembers' ('}' :: more)
    rw [hHead] at hText
    exact absurd hText (not_ws_inj (by decide) (by decide) (by decide))
  · obtain ⟨before, text, tail, hHead⟩ := members_head hMembers ('}' :: rest)
    rw [hHead] at hText
    exact absurd hText (not_ws_inj (by decide) (by decide) (by decide))
  · exact (members_inj hMembers hMembers' hText).1

/-- A text says one flat value at most. -/
theorem Says.unique {text : List Char} {v v' : Json} (h : Says text v) (h' : Says text v') :
    v = v' := by
  obtain ⟨before, value, after, rfl, hFlat⟩ := h
  obtain ⟨before', value', after', hText, hFlat'⟩ := h'
  simp only [Line.print] at hText
  -- the bracket behind the white space tells an array from an object
  rcases print_of_flat hFlat with ⟨inner, texts, hPrint, hBody, rfl⟩ |
      ⟨inner, fields, hPrint, hBody, rfl⟩ <;>
    rcases print_of_flat hFlat' with ⟨inner', texts', hPrint', hBody', rfl⟩ |
      ⟨inner', fields', hPrint', hBody', rfl⟩ <;>
    rw [hPrint, hPrint', List.cons_append, List.cons_append, List.append_assoc,
      List.append_assoc] at hText
  · rw [hBody.inj hBody' (ws_inj (by decide) (by decide) hText).2]
  · exact absurd hText (not_ws_inj (by decide) (by decide) (by decide))
  · exact absurd hText (not_ws_inj (by decide) (by decide) (by decide))
  · rw [hBody.inj hBody' (ws_inj (by decide) (by decide) hText).2]

/-! ## Texts without escapes -/

def isPlain (c : Char) : Bool := c != '"' && c != '\\' && decide (0x20 ≤ c.toNat)

/-- Characters that are written as they are. -/
def plainText (chars : List Char) (h : ∀ c ∈ chars, isPlain c = true) : StringText :=
  chars.attach.map fun c => .plain c.val (by simpa [isPlain, and_assoc] using h c.val c.property)

/-- The code points of a text join to the text. -/
theorem joinPairs_map (chars : List Char) : joinPairs (chars.map Char.toNat) = some chars := by
  induction chars with
  | nil => rfl
  | cons c chars ih =>
    obtain ⟨hHigh, hLow⟩ := JsonText.not_surrogate c
    cases chars with
    | nil => simp [joinPairs, hHigh, hLow, Char.ofNat_toNat]
    | cons d chars =>
      rw [List.map_cons, List.map_cons, joinPairs, hHigh, hLow]
      simp only [Bool.false_and, Bool.false_or, Bool.false_eq_true, if_false]
      rw [← List.map_cons, ih, Option.map_some, Char.ofNat_toNat]

/-- A plain text says itself. -/
theorem says?_plainText {chars : List Char} (h : ∀ c ∈ chars, isPlain c = true) :
    (plainText chars h).says? = some (String.ofList chars) := by
  have hUnits : (plainText chars h).map StringItem.unit = chars.map Char.toNat := by
    unfold plainText
    rw [List.map_map]
    show (chars.attach.map fun c => Char.toNat c.val) = chars.map Char.toNat
    exact List.attach_map_val
  rw [StringText.says?, hUnits, joinPairs_map]
  rfl

end JsonSyntax
