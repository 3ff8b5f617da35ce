import FieldSearch.Json.Printer
import FieldSearch.Json.Reader
import FieldSearch.Proofs.Json.Arrangement
import Mathlib.Data.List.DropRight

/-!
# Texts of JSON values

The texts of a value without numbers, with space between the parts of arrays and objects. The
reader reads every text of a value back as that value, and both of the forms that are written are
texts of it.
-/

namespace FieldSearch.Json

/-! ### Space -/

def Space (cs : List Char) : Prop := ∀ c ∈ cs, isSpace c = true

theorem space_nil : Space [] := by simp [Space]

theorem skipSpace_append {gap : List Char} (h : Space gap) (cs : List Char) :
    skipSpace (gap ++ cs) = skipSpace cs := by
  induction gap with
  | nil => rfl
  | cons c rest ih =>
    obtain ⟨hc, hrest⟩ := List.forall_mem_cons.mp h
    rw [List.cons_append, skipSpace, List.dropWhile_cons, hc, if_pos rfl]
    exact ih hrest

theorem skipSpace_cons {c : Char} (h : isSpace c = false) (cs : List Char) :
    skipSpace (c :: cs) = c :: cs := by
  rw [skipSpace, List.dropWhile_cons, h]
  rfl

theorem skipSpace_gap {gap : List Char} (space : Space gap) {c : Char} (h : isSpace c = false)
    (cs : List Char) : skipSpace (gap ++ c :: cs) = c :: cs := by
  rw [skipSpace_append space, skipSpace_cons h]

/-! ### Strings -/

theorem hexValue?_hexDigit : ∀ n < 16, hexValue? (hexDigit n) = some n := by
  decide

theorem readCodePoint_control {c : Char} (control : c.toNat < 0x20) (cs : List Char) :
    readCodePoint ('0' :: '0' :: hexDigit (c.toNat / 16) :: hexDigit (c.toNat % 16) :: cs) =
      some (c, cs) := by
  have hhigh := hexValue?_hexDigit (c.toNat / 16) (by omega)
  have hlow := hexValue?_hexDigit (c.toNat % 16) (by omega)
  have hzero : hexValue? '0' = some 0 := rfl
  have hunit : readUnit ('0' :: '0' :: hexDigit (c.toNat / 16) :: hexDigit (c.toNat % 16) :: cs) =
      some (c.toNat, cs) := by
    simp only [readUnit, hzero, hhigh, hlow, bind, Option.bind, pure]
    congr 2
    omega
  have htrailing : isTrailing c.toNat = false := by
    simp only [isTrailing, Bool.and_eq_false_iff, decide_eq_false_iff_not]
    omega
  have hleading : isLeading c.toNat = false := by
    simp only [isLeading, Bool.and_eq_false_iff, decide_eq_false_iff_not]
    omega
  simp [readCodePoint, hunit, htrailing, hleading, Char.ofNat_toNat]

section Characters

variable {fuel : Nat} {cs text rest : List Char} (h : readChars fuel cs = some (text, rest))

include h

theorem readChars_plain {c : Char} (printed : ¬ c.toNat < 0x20) (notQuote : c ≠ '"')
    (notBackslash : c ≠ '\\') : readChars (fuel + 1) (c :: cs) = some (c :: text, rest) := by
  rw [readChars]
  · rw [if_neg (by simp [printed, notBackslash]), h]
    rfl
  · exact fun heq => notQuote heq
  · exact fun _ heq _ => notBackslash heq
  · exact fun _ _ heq _ => notBackslash heq

/-- One character is read back, escaped or not. -/
theorem readChars_escapeChar (c : Char) :
    readChars (fuel + 1) (escapeChar c ++ cs) = some (c :: text, rest) := by
  unfold escapeChar
  split
  case h_8 notQuote notBackslash _ _ _ _ _ =>
    split
    next control => simp [readChars, readCodePoint_control control, h]
    next printed => exact readChars_plain h printed notQuote notBackslash
  all_goals simp [readChars, escaped?, h]

end Characters

/-- The characters of a string are read back up to the closing quote. -/
theorem readChars_quoted (text rest : List Char) {fuel : Nat} (enough : text.length < fuel) :
    readChars fuel (text.flatMap escapeChar ++ '"' :: rest) = some (text, rest) := by
  induction text generalizing fuel with
  | nil =>
    cases fuel with
    | zero => cases enough
    | succ fuel => rfl
  | cons c text ih =>
    cases fuel with
    | zero => cases enough
    | succ fuel =>
      rw [List.flatMap_cons, List.append_assoc]
      exact readChars_escapeChar (ih (Nat.lt_of_succ_lt_succ enough)) c

theorem length_le_escaped (text : List Char) :
    text.length ≤ (text.flatMap escapeChar).length := by
  have one : ∀ c, 1 ≤ (escapeChar c).length := by
    intro c
    unfold escapeChar
    split
    case h_8 => split <;> simp
    all_goals simp
  induction text with
  | nil => exact Nat.le_refl _
  | cons c text ih =>
    have hc := one c
    rw [List.flatMap_cons, List.length_append, List.length_cons]
    omega

/-- A string is read back after its opening quote. -/
theorem readString_quoted (s : String) (rest : List Char) :
    readString (s.toList.flatMap escapeChar ++ '"' :: rest) = some (s, rest) := by
  have hlength := length_le_escaped s.toList
  have enough : s.toList.length <
      (s.toList.flatMap escapeChar ++ '"' :: rest).length + 1 := by
    rw [List.length_append]
    omega
  simp only [readString, readChars_quoted s.toList rest enough, Option.map_some,
    String.ofList_toList]

/-! ### Values -/

mutual

/-- The characters are a text of the value. -/
inductive IsText : Json → List Char → Prop
  | null : IsText .null nullText
  | bool (b : Bool) : IsText (.bool b) (boolText b)
  | string (s : String) : IsText (.string s) (quote s)
  | noItems : IsText (.array []) ['[', ']']
  | array {items : List Json} {cs : List Char} : AreItems items cs →
      IsText (.array items) ('[' :: (cs ++ [']']))
  | noMembers : IsText (.object []) ['{', '}']
  | object {members : List (String × Json)} {cs : List Char} : AreMembers members cs →
      IsText (.object members) ('{' :: (cs ++ ['}']))

/-- The characters are what stands between the brackets of an array. -/
inductive AreItems : List Json → List Char → Prop
  | last {item : Json} {before cs after : List Char} : Space before → IsText item cs →
      Space after → AreItems [item] (before ++ (cs ++ after))
  | cons {item : Json} {rest : List Json} {before cs more : List Char} : Space before →
      IsText item cs → AreItems rest more → AreItems (item :: rest) (before ++ (cs ++ ',' :: more))

/-- The characters are what stands between the braces of an object. -/
inductive AreMembers : List (String × Json) → List Char → Prop
  | last {key : String} {value : Json} {before middle cs after : List Char} : Space before →
      Space middle → IsText value cs → Space after →
      AreMembers [(key, value)] (before ++ (quote key ++ ':' :: (middle ++ (cs ++ after))))
  | cons {key : String} {value : Json} {rest : List (String × Json)}
      {before middle cs more : List Char} : Space before → Space middle → IsText value cs →
      AreMembers rest more →
      AreMembers ((key, value) :: rest)
        (before ++ (quote key ++ ':' :: (middle ++ (cs ++ ',' :: more))))

end

/-- A text begins with no space, and not as the end of an array does. -/
theorem IsText.head {j : Json} {cs : List Char} (h : IsText j cs) :
    ∃ c rest, cs = c :: rest ∧ isSpace c = false ∧ c ≠ ']' := by
  cases h with
  | null => exact ⟨_, _, rfl, by decide, by decide⟩
  | bool b => cases b <;> exact ⟨_, _, rfl, by decide, by decide⟩
  | string s => exact ⟨_, _, rfl, by decide, by decide⟩
  | noItems => exact ⟨_, _, rfl, by decide, by decide⟩
  | array _ => exact ⟨_, _, rfl, by decide, by decide⟩
  | noMembers => exact ⟨_, _, rfl, by decide, by decide⟩
  | object _ => exact ⟨_, _, rfl, by decide, by decide⟩

theorem AreItems.head {items : List Json} {cs : List Char} (h : AreItems items cs)
    (rest : List Char) : ∃ c more, skipSpace (cs ++ rest) = c :: more ∧ c ≠ ']' := by
  cases h with
  | last before text _ =>
    obtain ⟨c, more, rfl, hc, hne⟩ := text.head
    rw [List.append_assoc, skipSpace_append before]
    exact ⟨c, _, skipSpace_cons hc _, hne⟩
  | cons before text _ =>
    obtain ⟨c, more, rfl, hc, hne⟩ := text.head
    rw [List.append_assoc, skipSpace_append before]
    exact ⟨c, _, skipSpace_cons hc _, hne⟩

theorem AreMembers.head {members : List (String × Json)} {cs : List Char}
    (h : AreMembers members cs) (rest : List Char) :
    ∃ more, skipSpace (cs ++ rest) = '"' :: more := by
  have hquote : isSpace '"' = false := by decide
  cases h with
  | last before _ _ _ =>
    rw [List.append_assoc, skipSpace_append before]
    exact ⟨_, skipSpace_cons hquote _⟩
  | cons before _ _ _ =>
    rw [List.append_assoc, skipSpace_append before]
    exact ⟨_, skipSpace_cons hquote _⟩

theorem readValue_space {gap : List Char} (space : Space gap) (fuel : Nat) (cs : List Char) :
    readValue fuel (gap ++ cs) = readValue fuel cs := by
  cases fuel with
  | zero => rfl
  | succ fuel => rw [readValue, readValue, skipSpace_append space]

theorem skipSpace_skipSpace (cs : List Char) : skipSpace (skipSpace cs) = skipSpace cs :=
  List.dropWhile_idempotent isSpace cs

theorem readItems_skipSpace (fuel : Nat) (cs : List Char) :
    readItems fuel (skipSpace cs) = readItems fuel cs := by
  have hvalue : ∀ fuel, readValue fuel (skipSpace cs) = readValue fuel cs := by
    intro fuel
    cases fuel with
    | zero => rfl
    | succ fuel => rw [readValue, readValue, skipSpace_skipSpace]
  cases fuel with
  | zero => rfl
  | succ fuel => rw [readItems, readItems, hvalue]

theorem readMembers_skipSpace (fuel : Nat) (cs : List Char) :
    readMembers fuel (skipSpace cs) = readMembers fuel cs := by
  cases fuel with
  | zero => rfl
  | succ fuel => rw [readMembers, readMembers, skipSpace_skipSpace]

/-- An array that is not closed at once has items. -/
theorem readValue_bracket (fuel : Nat) {c : Char} {cs more : List Char}
    (head : skipSpace cs = c :: more) (open' : c ≠ ']') : readValue (fuel + 1) ('[' :: cs) =
      (readItems fuel cs).map fun (items, rest) => (.array items, rest) := by
  have hspace : isSpace '[' = false := by decide
  rw [readValue, skipSpace_cons hspace]
  simp only
  split
  next heq =>
    cases head.symm.trans heq
    exact absurd rfl open'
  next => rw [readItems_skipSpace]

theorem readValue_brace (fuel : Nat) {c : Char} {cs more : List Char}
    (head : skipSpace cs = c :: more) (open' : c ≠ '}') : readValue (fuel + 1) ('{' :: cs) =
      (readMembers fuel cs).map fun (members, rest) => (.object members, rest) := by
  have hspace : isSpace '{' = false := by decide
  rw [readValue, skipSpace_cons hspace]
  simp only
  split
  next heq =>
    cases head.symm.trans heq
    exact absurd rfl open'
  next => rw [readMembers_skipSpace]

mutual

/-- A text of a value is read back as the value, whatever comes after it. -/
theorem IsText.read {j : Json} {cs : List Char} (h : IsText j cs) {fuel : Nat}
    (enough : cs.length ≤ fuel) (rest : List Char) :
    readValue fuel (cs ++ rest) = some (j, rest) := by
  -- a bracket, comma or colon is read before each further call, so the fuel lasts for the length
  obtain ⟨fuel, rfl⟩ : ∃ n, fuel = n + 1 := by
    obtain ⟨c, more, rfl, -⟩ := h.head
    rw [List.length_cons] at enough
    exact ⟨fuel - 1, by omega⟩
  cases h with
  | null => rfl
  | bool b => cases b <;> rfl
  | string s =>
    have hspace : isSpace '"' = false := by decide
    simp only [quote, List.cons_append, List.append_assoc, List.nil_append, readValue,
      skipSpace_cons hspace, readString_quoted, Option.map_some]
  | noItems => rfl
  | @array items cs inside =>
    have enough : cs.length < fuel := by
      simp only [List.length_cons, List.length_append, List.length_nil] at enough
      omega
    obtain ⟨c, more, hhead, hne⟩ := inside.head (']' :: rest)
    simp only [List.cons_append, List.append_assoc, List.nil_append]
    rw [readValue_bracket fuel hhead hne, inside.read enough rest, Option.map_some]
  | noMembers => rfl
  | @object members cs inside =>
    have enough : cs.length < fuel := by
      simp only [List.length_cons, List.length_append, List.length_nil] at enough
      omega
    obtain ⟨more, hhead⟩ := inside.head ('}' :: rest)
    simp only [List.cons_append, List.append_assoc, List.nil_append]
    rw [readValue_brace fuel hhead (by decide), inside.read enough rest, Option.map_some]

theorem AreItems.read {items : List Json} {cs : List Char} (h : AreItems items cs) {fuel : Nat}
    (enough : cs.length < fuel) (rest : List Char) :
    readItems fuel (cs ++ ']' :: rest) = some (items, rest) := by
  obtain ⟨fuel, rfl⟩ : ∃ n, fuel = n + 1 := ⟨fuel - 1, by omega⟩
  have hclose : isSpace ']' = false := by decide
  have hcomma : isSpace ',' = false := by decide
  cases h with
  | @last item before cs after hbefore text hafter =>
    have enough : cs.length ≤ fuel := by
      simp only [List.length_append] at enough
      omega
    simp only [readItems, List.append_assoc, readValue_space hbefore,
      text.read enough, skipSpace_gap hafter hclose]
  | @cons item others before cs more hbefore text inside =>
    have enough' : cs.length ≤ fuel ∧ more.length < fuel := by
      simp only [List.length_append, List.length_cons] at enough
      obtain ⟨c, _, rfl, -⟩ := text.head
      simp only [List.length_cons] at enough ⊢
      omega
    simp only [readItems, List.append_assoc, List.cons_append, readValue_space hbefore,
      text.read enough'.1, skipSpace_cons hcomma, inside.read enough'.2 rest, Option.map_some]

theorem AreMembers.read {members : List (String × Json)} {cs : List Char}
    (h : AreMembers members cs) {fuel : Nat} (enough : cs.length < fuel) (rest : List Char) :
    readMembers fuel (cs ++ '}' :: rest) = some (members, rest) := by
  obtain ⟨fuel, rfl⟩ : ∃ n, fuel = n + 1 := ⟨fuel - 1, by omega⟩
  have hquote : isSpace '"' = false := by decide
  have hcolon : isSpace ':' = false := by decide
  have hclose : isSpace '}' = false := by decide
  have hcomma : isSpace ',' = false := by decide
  cases h with
  | @last key value before middle cs after hbefore hmiddle text hafter =>
    have enough : cs.length ≤ fuel := by
      simp only [List.length_append, List.length_cons] at enough
      omega
    simp only [readMembers, quote, List.append_assoc, List.cons_append, List.nil_append,
      skipSpace_gap hbefore hquote, readString_quoted, skipSpace_cons hcolon,
      readValue_space hmiddle, text.read enough, skipSpace_gap hafter hclose]
  | @cons key value others before middle cs more hbefore hmiddle text inside =>
    have enough' : cs.length ≤ fuel ∧ more.length < fuel := by
      simp only [List.length_append, List.length_cons] at enough
      omega
    simp only [readMembers, quote, List.append_assoc, List.cons_append, List.nil_append,
      skipSpace_gap hbefore hquote, readString_quoted, skipSpace_cons hcolon,
      readValue_space hmiddle, text.read enough'.1, skipSpace_cons hcomma,
      inside.read enough'.2 rest, Option.map_some]

end

/-- A whole text with space around a value is read as the value. -/
theorem parse?_eq_some {j : Json} {cs gap gap' : List Char} (before : Space gap)
    (text : IsText j cs) (after : Space gap') :
    parse? (String.ofList (gap ++ (cs ++ gap'))) = some j := by
  have enough : cs.length ≤ 2 * (gap ++ (cs ++ gap')).length + 2 := by
    simp only [List.length_append]
    omega
  have hend : skipSpace gap' = [] := by
    have hskip := skipSpace_append after []
    rwa [List.append_nil] at hskip
  simp only [parse?, String.toList_ofList, readValue_space before, text.read enough, hend,
    List.isEmpty_nil, if_true]

/-! ### What is written -/

/-- There is no number in the value. -/
inductive Numberless : Json → Prop
  | null : Numberless .null
  | bool (b : Bool) : Numberless (.bool b)
  | string (s : String) : Numberless (.string s)
  | array {items : List Json} : (∀ item ∈ items, Numberless item) → Numberless (.array items)
  | object {members : List (String × Json)} : (∀ m ∈ members, Numberless m.2) →
    Numberless (.object members)

attribute [simp] Numberless.bool Numberless.string

@[simp]
theorem numberless_array {items : List Json} :
    Numberless (.array items) ↔ ∀ item ∈ items, Numberless item := by
  constructor
  · rintro ⟨⟩
    assumption
  · exact .array

@[simp]
theorem numberless_object {members : List (String × Json)} :
    Numberless (.object members) ↔ ∀ m ∈ members, Numberless m.2 := by
  constructor
  · rintro ⟨⟩
    assumption
  · exact .object

theorem Numberless.canonical {j : Json} (numberless : Numberless j) : Numberless j.canonical := by
  induction numberless with
  | null => exact .null
  | bool b => exact .bool b
  | string s => exact .string s
  | @array items _ ih =>
    rw [Json.canonical, canonicalItems_eq]
    exact .array (List.forall_mem_map.mpr ih)
  | @object members _ ih =>
    refine .object fun m hm => ?_
    rcases mem_canonicalMembers hm with hm | ⟨m', hm', heq⟩
    · cases hm
    · rw [heq]
      exact ih m' hm'

theorem areItems_compact {items : List Json} (some : items ≠ [])
    (each : ∀ item ∈ items, IsText item item.compactChars) :
    AreItems items (compactItems items) := by
  induction items with
  | nil => exact absurd rfl some
  | cons item rest ih =>
    rw [List.forall_mem_cons] at each
    cases rest with
    | nil =>
      have last := AreItems.last space_nil each.1 space_nil
      rwa [List.append_nil, List.nil_append] at last
    | cons next others =>
      exact .cons space_nil each.1 (ih (List.cons_ne_nil _ _) each.2)

theorem areMembers_compact {members : List (String × Json)} (some : members ≠ [])
    (each : ∀ m ∈ members, IsText m.2 m.2.compactChars) :
    AreMembers members (compactMembers members) := by
  induction members with
  | nil => exact absurd rfl some
  | cons member rest ih =>
    obtain ⟨key, value⟩ := member
    rw [List.forall_mem_cons] at each
    cases rest with
    | nil =>
      have last : AreMembers [(key, value)] _ := .last space_nil space_nil each.1 space_nil
      rwa [List.append_nil] at last
    | cons next others =>
      have first : AreMembers ((key, value) :: next :: others) _ :=
        .cons space_nil space_nil each.1 (ih (List.cons_ne_nil _ _) each.2)
      simpa [compactMembers] using first

/-- The compact form of a value without numbers is a text of it. -/
theorem Numberless.compact_isText {j : Json} (numberless : Numberless j) :
    IsText j j.compactChars := by
  induction numberless with
  | null => exact .null
  | bool b => exact .bool b
  | string s => exact .string s
  | @array items _ ih =>
    cases items with
    | nil => exact .noItems
    | cons item rest => exact .array (areItems_compact (List.cons_ne_nil _ _) ih)
  | @object members _ ih =>
    cases members with
    | nil => exact .noMembers
    | cons member rest => exact .object (areMembers_compact (List.cons_ne_nil _ _) ih)

theorem space_newline (indent : Nat) : Space (newline indent) := by
  intro c hc
  rcases List.mem_cons.mp hc with rfl | hc
  · rfl
  · rw [List.eq_of_mem_replicate hc]
    rfl

theorem areItems_indented {items : List Json} {inner outer : Nat} (some : items ≠ [])
    (each : ∀ item ∈ items, IsText item (item.indentedChars inner)) :
    AreItems items (indentedItems inner items ++ newline outer) := by
  induction items with
  | nil => exact absurd rfl some
  | cons item rest ih =>
    rw [List.forall_mem_cons] at each
    cases rest with
    | nil =>
      have last := AreItems.last (space_newline inner) each.1 (space_newline outer)
      simpa [indentedItems] using last
    | cons next others =>
      have first := AreItems.cons (space_newline inner) each.1
        (ih (List.cons_ne_nil _ _) each.2)
      simpa [indentedItems] using first

theorem areMembers_indented {members : List (String × Json)} {inner outer : Nat}
    (some : members ≠ []) (each : ∀ m ∈ members, IsText m.2 (m.2.indentedChars inner)) :
    AreMembers members (indentedMembers inner members ++ newline outer) := by
  have blank : Space [' '] := by simp [Space, isSpace]
  induction members with
  | nil => exact absurd rfl some
  | cons member rest ih =>
    obtain ⟨key, value⟩ := member
    rw [List.forall_mem_cons] at each
    cases rest with
    | nil =>
      have last : AreMembers [(key, value)] _ :=
        .last (space_newline inner) blank each.1 (space_newline outer)
      simpa [indentedMembers] using last
    | cons next others =>
      have first : AreMembers ((key, value) :: next :: others) _ :=
        .cons (space_newline inner) blank each.1 (ih (List.cons_ne_nil _ _) each.2)
      simpa [indentedMembers] using first

/-- The indented form of a value without numbers is a text of it. -/
theorem Numberless.indented_isText {j : Json} (numberless : Numberless j) (indent : Nat) :
    IsText j (j.indentedChars indent) := by
  induction numberless generalizing indent with
  | null => exact .null
  | bool b => exact .bool b
  | string s => exact .string s
  | @array items _ ih =>
    cases items with
    | nil => exact .noItems
    | cons item rest =>
      have inside : AreItems (item :: rest)
          (indentedItems (indent + 1) (item :: rest) ++ newline indent) :=
        areItems_indented (List.cons_ne_nil _ _) fun item hitem => ih item hitem (indent + 1)
      simpa [indentedChars] using IsText.array inside
  | @object members _ ih =>
    cases members with
    | nil => exact .noMembers
    | cons member rest =>
      have inside : AreMembers (member :: rest)
          (indentedMembers (indent + 1) (member :: rest) ++ newline indent) :=
        areMembers_indented (List.cons_ne_nil _ _) fun m hm => ih m hm (indent + 1)
      simpa [indentedChars] using IsText.object inside

/-- A value without numbers is read back from both of its forms. -/
theorem Numberless.parse?_eq {j : Json} (numberless : Numberless j) :
    parse? j.compact = some j ∧ parse? j.indented = some j := by
  have whole : ∀ {cs}, IsText j cs → parse? (String.ofList cs) = some j := by
    intro cs text
    have hread := parse?_eq_some space_nil text space_nil
    rwa [List.append_nil, List.nil_append] at hread
  exact ⟨whole numberless.compact_isText, whole (numberless.indented_isText 0)⟩

end FieldSearch.Json
