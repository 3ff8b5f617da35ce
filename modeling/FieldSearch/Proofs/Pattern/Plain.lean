import FieldSearch.Pattern.Basic
import FieldSearch.Proofs.Text.Normal

/-!
# Plain patterns

A pattern without signs of the syntax stands for its own text, and is refused only for its size.
Decomposition neither adds a sign nor takes one away.
-/

namespace FieldSearch

namespace Pattern

/-- The characters that do not stand for themselves. -/
def signs : List Char := ['\\', '.', '+', '*', '?', '(', ')', '|', '[', '{', '^', '$']

/-- Each character of the text stands for itself. -/
def Plain (text : String) : Prop := ∀ c ∈ text.toList, c ∉ signs

/-- The number of bytes in the encoding of a text. -/
def encodedSize : List Char → Nat
  | [] => 0
  | c :: rest => encodedLength c.toNat + encodedSize rest

def literals (cs : List Char) : List Node := cs.map fun c => .literal ⟨c, false⟩

theorem literals_cons (c : Char) (rest : List Char) :
    literals (c :: rest) = .literal ⟨c, false⟩ :: literals rest := rfl

/-! ### Reading -/

theorem readNode_plain {cs : List Char} (plain : ∀ c ∈ cs, c ∉ signs) (items : List Node)
    {fuel : Nat} (enough : cs.length < fuel) :
    readNode false [] items fuel cs = some (close [] ((literals cs).reverse ++ items), []) := by
  induction cs generalizing items fuel with
  | nil =>
    obtain ⟨fuel, rfl⟩ := Nat.exists_eq_succ_of_ne_zero (Nat.ne_of_gt enough)
    rfl
  | cons c rest ih =>
    obtain ⟨fuel, rfl⟩ := Nat.exists_eq_succ_of_ne_zero (Nat.ne_of_gt (Nat.zero_lt_of_lt enough))
    rw [List.forall_mem_cons] at plain
    have here : readNode false [] items (fuel + 1) (c :: rest) =
        readNode false [] (.literal ⟨c, false⟩ :: items) fuel rest := by
      rw [readNode.eq_def]
      simp only [skip, Bool.false_eq_true, if_false]
      split
      case h_1 heq => cases heq
      case h_14 heq =>
        cases heq
        rfl
      -- one of the signs in each of the others
      all_goals
        next heq =>
          cases heq
          exact absurd (by decide) plain.1
    rw [here, ih plain.2 _ (Nat.lt_of_succ_lt_succ enough), literals_cons, List.reverse_cons,
      List.append_assoc, List.singleton_append]

theorem nestingOf_literals (cs : List Char) : Node.nestingOf (literals cs) = 0 := by
  induction cs with
  | nil => rfl
  | cons c rest ih =>
    rw [literals_cons, Node.nestingOf, ih]
    rfl

theorem groupNamesOf_literals (cs : List Char) : Node.groupNamesOf (literals cs) = [] := by
  induction cs with
  | nil => rfl
  | cons c rest ih =>
    rw [literals_cons, Node.groupNamesOf, ih]
    rfl

/-- One literal is no sequence. -/
theorem ofParts_literals (cs : List Char) :
    (∃ c, cs = [c] ∧ Node.ofParts (literals cs) = .literal ⟨c, false⟩) ∨
      Node.ofParts (literals cs) = .concat (literals cs) := by
  match cs with
  | [] => exact .inr rfl
  | [c] => exact .inl ⟨c, rfl, rfl⟩
  | _ :: _ :: _ => exact .inr rfl

theorem nesting_plain (cs : List Char) : (Node.ofParts (literals cs)).nesting ≤ 1 := by
  rcases ofParts_literals cs with ⟨c, -, h⟩ | h
  · rw [h]
    exact Nat.zero_le 1
  · rw [h]
    cases cs with
    | nil => exact Nat.zero_le 1
    | cons c rest =>
      have flat := nestingOf_literals (c :: rest)
      rw [literals_cons] at flat ⊢
      rw [Node.nesting, flat]

theorem groupNames_plain (cs : List Char) : (Node.ofParts (literals cs)).groupNames = [] := by
  rcases ofParts_literals cs with ⟨c, -, h⟩ | h
  · rw [h]
    rfl
  · rw [h, Node.groupNames, groupNamesOf_literals]

theorem ofText?_plain {text : String} (plain : Plain text) :
    Node.ofText? text = some (Node.ofParts (literals text.toList)) := by
  have enough : text.toList.length < text.length + 1 := by
    rw [String.length_toList]
    exact Nat.lt_succ_self _
  have whole : close [] ((literals text.toList).reverse ++ []) =
      Node.ofParts (literals text.toList) := by
    rw [List.append_nil, close, List.reverse_reverse]
    rfl
  have shallow : ¬ nestingLimit < (Node.ofParts (literals text.toList)).nesting := by
    have := nesting_plain text.toList
    rw [nestingLimit]
    omega
  simp only [Node.ofText?, readNode_plain plain [] enough, whole, groupNames_plain, hasRepeated,
    shallow, decide_false, Bool.or_false, Bool.false_eq_true, if_false]

/-! ### Compiling -/

/-- The expressions of literals, in the mode in which a pattern begins. -/
def literalSets (cs : List Char) : List Expression := cs.map fun c => .chars (.single c)

theorem literalSets_cons (c : Char) (rest : List Char) :
    literalSets (c :: rest) = .chars (.single c) :: literalSets rest := rfl

theorem compileAll?_literals (cs : List Char) :
    Node.compileAll? {} (literals cs) = some (literalSets cs, {}) := by
  induction cs with
  | nil => rfl
  | cons c rest ih =>
    have first : Node.compile? {} (.literal ⟨c, false⟩) = some (.chars (.single c), {}) := rfl
    simp only [literals_cons, Node.compileAll?, first, ih, Option.bind_eq_bind, Option.bind_some]
    rfl

theorem size_single (c : Char) :
    (Expression.chars (.single c)).size = encodedLength c.toNat * stateSize := by
  rw [Expression.size, setSize]
  simp only [Text.CharSet.single, if_true]

theorem sizeOf_literalSets (cs : List Char) :
    Expression.sizeOf (literalSets cs) = encodedSize cs * stateSize := by
  induction cs with
  | nil => simp [literalSets, Expression.sizeOf, encodedSize]
  | cons c rest ih =>
    rw [literalSets_cons, Expression.sizeOf, ih, size_single, encodedSize, Nat.add_mul]

theorem compile?_plain (cs : List Char) :
    ∃ e m, (Node.ofParts (literals cs)).compile? {} = some (e, m) ∧
      e.size = encodedSize cs * stateSize := by
  rcases ofParts_literals cs with ⟨c, rfl, h⟩ | h
  · exact ⟨.chars (.single c), {}, by rw [h]; rfl, size_single c⟩
  · refine ⟨.concat (literalSets cs), {}, ?_, ?_⟩
    · rw [h, Node.compile?, compileAll?_literals]
      rfl
    · rw [Expression.size, sizeOf_literalSets]

/-- A text without signs is a pattern just if it is not too large. -/
theorem isValid_plain {text : String} (plain : Plain text) :
    isValid text = true ↔ encodedSize text.toList * stateSize ≤ sizeLimit := by
  obtain ⟨e, m, compiled, size⟩ := compile?_plain text.toList
  rw [isValid, ofText?, ofText?_plain plain]
  simp only [Option.bind_eq_bind, Option.bind_some, compiled, size]
  split <;> simp [*]

/-! ### Decomposing -/

/-- The table has no sign in a decomposition. -/
theorem parts_signless : ∀ entry ∈ Text.decompositionBlocks.flatten, ∀ c ∈ entry.2,
    (Text.bits (signs.map Char.toNat)).testBit c = false := by
  decide +kernel

/-- No sign comes out of the decomposition of something else. -/
theorem decompose_sign {c d : Nat} (h : d ∈ Text.decompose c) (sign : d ∈ signs.map Char.toNat) :
    c = d := by
  rcases Text.decompose_cases c with self | letters | ⟨entry, hentry, parts⟩
  · rw [self, List.mem_singleton] at h
    exact h.symm
  · obtain ⟨low, -⟩ := letters d h
    have small : ∀ d ∈ signs.map Char.toNat, d < 0x80 := by decide
    have := small d sign
    omega
  · rw [parts] at h
    have signless := parts_signless entry hentry d h
    rw [Text.testBit_bits sign] at signless
    cases signless

theorem nfd_plain {text : String} (plain : Plain text) : Plain (Text.nfd text) := by
  intro c hc sign
  rw [Text.nfd, String.toList_ofList] at hc
  obtain ⟨d, hd, rfl⟩ := List.mem_map.mp hc
  obtain ⟨_, hmem, hpart⟩ := Text.nfdPoints_part hd
  obtain ⟨char, hchar, rfl⟩ := List.mem_map.mp hmem
  have valid := Text.decompose_valid char.valid hpart
  have point : d ∈ signs.map Char.toNat :=
    List.mem_map.mpr ⟨_, sign, Text.toNat_ofNat valid⟩
  have same := decompose_sign hpart point
  rw [← same, Char.ofNat_toNat] at sign
  exact plain char hchar sign

end Pattern

end FieldSearch
