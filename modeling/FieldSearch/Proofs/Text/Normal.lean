import FieldSearch.Text.Normal
import Mathlib.Algebra.Group.Nat.Defs
import Mathlib.Data.List.Chain

/-!
# A text is decomposed once

What a character decomposes into decomposes no further, and marks that are in order stay as they
are. So a text that has been decomposed is its own decomposition.
-/

namespace FieldSearch

namespace Text

/-! ### Decomposition -/

/-- The code points that have an entry in the table. -/
def composed : List Nat := decompositionBlocks.flatMap (·.map (·.1))

/-- A set of code points as the bits of a number. -/
def bits : List Nat → Nat
  | [] => 0
  | c :: rest => 2 ^ c ||| bits rest

theorem testBit_bits {cs : List Nat} {c : Nat} (h : c ∈ cs) : (bits cs).testBit c = true := by
  induction cs with
  | nil => cases h
  | cons d rest ih =>
    rw [bits, Nat.testBit_or, Bool.or_eq_true]
    rcases List.mem_cons.mp h with rfl | h
    · exact .inl Nat.testBit_two_pow_self
    · exact .inr (ih h)

def IsSyllable (c : Nat) : Prop := hangulBase ≤ c ∧ c < hangulBase + hangulCount

instance (c : Nat) : Decidable (IsSyllable c) := inferInstanceAs (Decidable (_ ∧ _))

/-- No code point in the table stands for another entry of it, or for a syllable. -/
theorem parts_final : ∀ entry ∈ decompositionBlocks.flatten, ∀ c ∈ entry.2,
    (bits composed).testBit c = false ∧ ¬ IsSyllable c ∧ c.isValidChar := by
  decide +kernel

/-- The letters of syllables, which are in 0x1100 to 0x11FF, have no entry. -/
theorem letters_apart : ∀ c ∈ composed, c < 0x1100 ∨ 0x1200 ≤ c := by
  decide +kernel

theorem hangulLetters_between {index c : Nat} (small : index < hangulCount)
    (h : c ∈ hangulLetters index) : 0x1100 ≤ c ∧ c < 0x1200 := by
  rw [hangulCount] at small
  rw [hangulLetters] at h
  split at h <;> simp only [List.mem_cons, List.not_mem_nil, or_false] at h <;> omega

theorem decompose_self {c : Nat} (syllable : ¬ IsSyllable c) (h : c ∉ composed) :
    decompose c = [c] := by
  have absent : decompositionBlocks.findSome? (·.lookup c) = none := by
    rw [List.findSome?_eq_none_iff]
    intro block hblock
    rw [List.lookup_eq_none_iff]
    intro entry hentry
    have hmem : entry.1 ∈ composed :=
      List.mem_flatMap.mpr ⟨block, hblock, List.mem_map_of_mem hentry⟩
    exact bne_iff_ne.mpr fun same => h (same ▸ hmem)
  have outside : ¬ (hangulBase ≤ c ∧ c < hangulBase + hangulCount) := syllable
  rw [decompose, if_neg outside, absent, Option.getD_none, ite_self]

/-- A code point is its own decomposition, or decomposes into letters of Hangul, or has an entry in
the table. -/
theorem decompose_cases (c : Nat) :
    decompose c = [c] ∨ (∀ d ∈ decompose c, 0x1100 ≤ d ∧ d < 0x1200) ∨
      ∃ entry ∈ decompositionBlocks.flatten, decompose c = entry.2 := by
  unfold decompose
  split
  next => exact .inl rfl
  next =>
    split
    next syllable => exact .inr (.inl fun d => hangulLetters_between (by omega))
    next =>
      cases found : decompositionBlocks.findSome? (·.lookup c) with
      | none => exact .inl rfl
      | some parts =>
        obtain ⟨block, hblock, hlookup⟩ := List.exists_of_findSome?_eq_some found
        obtain ⟨before, after, split, -⟩ := List.lookup_eq_some_iff.mp hlookup
        have hentry : (c, parts) ∈ block := by simp [split]
        exact .inr (.inr ⟨(c, parts), List.mem_flatten.mpr ⟨block, hblock, hentry⟩, rfl⟩)

/-- What a code point decomposes into decomposes no further. -/
theorem decompose_part {c d : Nat} (h : d ∈ decompose c) : decompose d = [d] := by
  rcases decompose_cases c with self | letters | ⟨entry, hentry, parts⟩
  · rw [self, List.mem_singleton] at h
    rw [h, self]
  · obtain ⟨low, high⟩ := letters d h
    apply decompose_self
    · simp only [IsSyllable, hangulBase]
      omega
    · intro hmem
      have := letters_apart d hmem
      omega
  · rw [parts] at h
    obtain ⟨unlisted, syllable, -⟩ := parts_final entry hentry d h
    apply decompose_self syllable
    intro hmem
    rw [testBit_bits hmem] at unlisted
    cases unlisted

theorem decompose_valid {c d : Nat} (valid : c.isValidChar) (h : d ∈ decompose c) :
    d.isValidChar := by
  rcases decompose_cases c with self | letters | ⟨entry, hentry, parts⟩
  · rw [self, List.mem_singleton] at h
    rwa [h]
  · obtain ⟨low, high⟩ := letters d h
    exact .inl (by omega)
  · rw [parts] at h
    exact (parts_final entry hentry d h).2.2

/-! ### The order of marks -/

/-- A code point may stand right before another: the other is no mark, or is of no lesser class. -/
def MayPrecede (c d : Nat) : Prop :=
  combiningClass d = 0 ∨ combiningClass c ≤ combiningClass d

theorem insertMark_perm (c : Nat) (cs : List Nat) : (insertMark c cs).Perm (c :: cs) := by
  fun_induction insertMark c cs with
  | case1 => rfl
  | case2 d rest before ih => exact (ih.cons d).trans (List.Perm.swap c d rest)
  | case3 => rfl

theorem orderMarks_perm (cs : List Nat) : (orderMarks cs).Perm cs := by
  induction cs with
  | nil => rfl
  | cons c rest ih => exact (insertMark_perm c _).trans (ih.cons c)

/-- A code point that may precede both the one inserted and the first of the others may precede what
then comes first. -/
theorem insertMark_ordered_cons {b c : Nat} {cs : List Nat} (first : MayPrecede b c)
    (ordered : (b :: cs).IsChain MayPrecede) (h : (insertMark c cs).IsChain MayPrecede) :
    (b :: insertMark c cs).IsChain MayPrecede := by
  cases cs with
  | nil => exact .cons_cons first (.singleton c)
  | cons d rest =>
    rw [insertMark] at h ⊢
    by_cases before : 0 < combiningClass d ∧ combiningClass d < combiningClass c
    · rw [if_pos before] at h ⊢
      exact .cons_cons (List.isChain_cons_cons.mp ordered).1 h
    · rw [if_neg before] at h ⊢
      exact .cons_cons first h

theorem insertMark_ordered {c : Nat} {cs : List Nat} (ordered : cs.IsChain MayPrecede) :
    (insertMark c cs).IsChain MayPrecede := by
  induction cs with
  | nil => exact .singleton c
  | cons d rest ih =>
    rw [insertMark]
    split
    next before => exact insertMark_ordered_cons (.inr (by omega)) ordered (ih ordered.tail)
    next before =>
      refine .cons_cons ?_ ordered
      rw [MayPrecede]
      omega

theorem orderMarks_ordered (cs : List Nat) : (orderMarks cs).IsChain MayPrecede := by
  induction cs with
  | nil => exact .nil
  | cons c rest ih => exact insertMark_ordered ih

/-- Marks in order stay as they are. -/
theorem orderMarks_of_ordered {cs : List Nat} (ordered : cs.IsChain MayPrecede) :
    orderMarks cs = cs := by
  induction cs with
  | nil => rfl
  | cons c rest ih =>
    rw [orderMarks, ih ordered.tail]
    cases rest with
    | nil => rfl
    | cons d others =>
      have first := (List.isChain_cons_cons.mp ordered).1
      rw [MayPrecede] at first
      rw [insertMark, if_neg (by omega)]

/-! ### Texts -/

theorem flatMap_decompose {cs : List Nat} (final : ∀ c ∈ cs, decompose c = [c]) :
    cs.flatMap decompose = cs := by
  rw [List.flatMap_congr final, List.flatMap_singleton']

theorem nfdPoints_part {points : List Nat} {d : Nat} (h : d ∈ nfdPoints points) :
    ∃ c ∈ points, d ∈ decompose c :=
  List.mem_flatMap.mp ((orderMarks_perm _).mem_iff.mp h)

theorem nfdPoints_nfdPoints (points : List Nat) :
    nfdPoints (nfdPoints points) = nfdPoints points := by
  have final : ∀ d ∈ nfdPoints points, decompose d = [d] := by
    intro d hd
    obtain ⟨c, -, h⟩ := nfdPoints_part hd
    exact decompose_part h
  have ordered : (nfdPoints points).IsChain MayPrecede := orderMarks_ordered _
  rw [nfdPoints, flatMap_decompose final, orderMarks_of_ordered ordered]

theorem map_ofNat_toNat (cs : List Char) : (cs.map Char.toNat).map Char.ofNat = cs := by
  rw [List.map_map]
  exact List.map_id'' Char.ofNat_toNat cs

theorem toNat_ofNat {c : Nat} (valid : c.isValidChar) : (Char.ofNat c).toNat = c := by
  rw [Char.ofNat, dif_pos valid]
  rfl

theorem map_toNat_ofNat {points : List Nat} (valid : ∀ c ∈ points, c.isValidChar) :
    (points.map Char.ofNat).map Char.toNat = points := by
  rw [List.map_map]
  exact (List.map_congr_left fun c hc => toNat_ofNat (valid c hc)).trans (List.map_id _)

/-- The decomposition of a text is its own. -/
theorem nfd_nfd (s : String) : nfd (nfd s) = nfd s := by
  have valid : ∀ d ∈ nfdPoints (s.toList.map Char.toNat), d.isValidChar := by
    intro d hd
    obtain ⟨c, hc, h⟩ := nfdPoints_part hd
    obtain ⟨char, -, rfl⟩ := List.mem_map.mp hc
    exact decompose_valid char.valid h
  rw [nfd, nfd, String.toList_ofList, map_toNat_ofNat valid, nfdPoints_nfdPoints]

/-- A text in the first characters only is its own decomposition. -/
theorem nfd_of_small {s : String} (small : ∀ c ∈ s.toList, c.toNat < 0xC0) : nfd s = s := by
  have final : ∀ c ∈ s.toList.map Char.toNat, decompose c = [c] := by
    rintro _ hc
    obtain ⟨char, hchar, rfl⟩ := List.mem_map.mp hc
    rw [decompose, if_pos (small char hchar)]
  have ordered : (s.toList.map Char.toNat).IsChain MayPrecede := by
    apply List.Pairwise.isChain
    apply List.pairwise_of_forall_mem_list
    rintro c - _ hd
    obtain ⟨char, hchar, rfl⟩ := List.mem_map.mp hd
    have low := small char hchar
    exact .inl (if_pos (by omega))
  rw [nfd, nfdPoints, flatMap_decompose final, orderMarks_of_ordered ordered, map_ofNat_toNat,
    String.ofList_toList]

end Text

end FieldSearch
