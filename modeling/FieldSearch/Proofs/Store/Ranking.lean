import FieldSearch.Proofs.Store.Ordering

/-!
# The order of rows

Values are ordered by kind, numbers among themselves by value, and texts by code points or without
regard to case. So any two values can be compared and comparisons agree with each other, and the
same holds of rows under any keys. Sorting therefore puts rows in order, and the rows that come out
are in one order only if no two of them are left equal.
-/

namespace FieldSearch

open Sql Std

theorem compare_mul (a b : Int) {c : Int} (hc : 0 < c) : compare (a * c) (b * c) = compare a b := by
  rcases Int.lt_trichotomy a b with h | rfl | h
  · rw [Int.compare_eq_lt.mpr h, Int.compare_eq_lt.mpr (Int.mul_lt_mul_of_pos_right h hc)]
  · rw [ReflOrd.compare_self, ReflOrd.compare_self]
  · rw [Int.compare_eq_gt.mpr h, Int.compare_eq_gt.mpr (Int.mul_lt_mul_of_pos_right h hc)]

section Comparisons

variable {α β : Type} {cmp : β → β → Ordering} [TransCmp cmp]

theorem transCmp_comap (f : α → β) : TransCmp fun a b => cmp (f a) (f b) where
  eq_swap := OrientedCmp.eq_swap
  isLE_trans := TransCmp.isLE_trans

/-! ### Sorting -/

theorem insertBy_map (f : α → β) (le : β → β → Bool) (a : α) (as : List α) :
    insertBy le (f a) (as.map f) = (insertBy (fun a b => le (f a) (f b)) a as).map f := by
  induction as with
  | nil => rfl
  | cons b rest ih =>
    rw [List.map_cons, insertBy, insertBy]
    split
    · rfl
    · rw [ih, List.map_cons]

theorem sortBy_map (f : α → β) (le : β → β → Bool) (as : List α) :
    sortBy le (as.map f) = (sortBy (fun a b => le (f a) (f b)) as).map f := by
  induction as with
  | nil => rfl
  | cons a rest ih =>
    change insertBy le (f a) (sortBy le (rest.map f)) = _
    rw [ih, insertBy_map]
    rfl

theorem insertBy_sorted (b : β) {bs : List β} (h : bs.Pairwise fun a b => (cmp a b).isLE) :
    (insertBy (cmp · · != .gt) b bs).Pairwise fun a b => (cmp a b).isLE := by
  induction bs with
  | nil => exact List.pairwise_singleton _ b
  | cons first rest ih =>
    obtain ⟨hfirst, hrest⟩ := List.pairwise_cons.mp h
    rw [insertBy]
    split
    next hle =>
      have hbefore : (cmp b first).isLE := Ordering.isLE_iff_ne_gt.mpr (by simpa using hle)
      refine List.pairwise_cons.mpr ⟨?_, h⟩
      intro c hc
      rcases List.mem_cons.mp hc with rfl | hc
      · exact hbefore
      · exact TransCmp.isLE_trans hbefore (hfirst c hc)
    next hgt =>
      have hafter : cmp first b = .lt := OrientedCmp.lt_of_gt (by simpa using hgt)
      refine List.pairwise_cons.mpr ⟨?_, ih hrest⟩
      intro c hc
      rcases List.mem_cons.mp ((insertBy_perm _ b rest).mem_iff.mp hc) with rfl | hc
      · rw [hafter]
        rfl
      · exact hfirst c hc

/-- Sorting puts the elements in order. -/
theorem sortBy_sorted (bs : List β) :
    (sortBy (cmp · · != .gt) bs).Pairwise fun a b => (cmp a b).isLE := by
  induction bs with
  | nil => exact .nil
  | cons b rest ih => exact insertBy_sorted b ih

/-- Elements that a comparison leaves equal. -/
def tied (cmp : β → β → Ordering) [TransCmp cmp] : Setoid β where
  r a b := cmp a b = .eq
  iseqv := ⟨fun _ => ReflCmp.compare_self, OrientedCmp.eq_symm, TransCmp.eq_trans⟩

/-- Two ways to put the same elements in order differ only by elements that are left equal. -/
theorem sorted_tied {as bs : List β} (perm : as.Perm bs)
    (sorted : as.Pairwise fun a b => (cmp a b).isLE)
    (sorted' : bs.Pairwise fun a b => (cmp a b).isLE) :
    List.Forall₂ (fun a b => cmp a b = .eq) as bs := by
  -- In the quotient nothing is left equal, so there is one order.
  let le (x y : Quotient (tied cmp)) : Prop :=
    ∃ a b, Quotient.mk (tied cmp) a = x ∧ Quotient.mk (tied cmp) b = y ∧ (cmp a b).isLE
  have hmap : ∀ {cs : List β}, cs.Pairwise (fun a b => (cmp a b).isLE) →
      (cs.map (Quotient.mk (tied cmp))).Pairwise le := fun h =>
    List.pairwise_map.mpr (h.imp fun hle => ⟨_, _, rfl, rfl, hle⟩)
  have antisymm : ∀ x y, le x y → le y x → x = y := by
    rintro _ _ ⟨a, b, rfl, rfl, hle⟩ ⟨b', a', hb, ha, hle'⟩
    have hb : cmp b' b = .eq := Quotient.exact hb
    have ha : cmp a' a = .eq := Quotient.exact ha
    rw [TransCmp.congr_left hb, TransCmp.congr_right ha] at hle'
    exact Quotient.sound (OrientedCmp.isLE_antisymm hle hle')
  have same := (perm.map (Quotient.mk (tied cmp))).eq_of_pairwise
    (fun x y _ _ => antisymm x y) (hmap sorted) (hmap sorted')
  rw [← List.forall₂_eq_eq_eq, List.forall₂_map_left_iff, List.forall₂_map_right_iff] at same
  exact same.imp fun _ _ h => Quotient.exact h

end Comparisons

/-! ### Values -/

namespace Sql.Value

/-- Null comes before numbers and numbers before texts. -/
def kind : Value → Nat
  | null => 0
  | integer _ => 1
  | real _ => 1
  | text _ => 2

/-- A number in units of `2^-1074`. -/
def units : Value → Int
  | integer n => n.toInt * Nat.pow 2 1074
  | real x => x.scaled
  | _ => 0

def label : Value → String
  | text s => s
  | _ => ""

/-- By kind, numbers by value and texts by an order of theirs. -/
def rank (texts : String → String → Ordering) : Value → Value → Ordering :=
  compareLex (compareOn kind) (compareLex (compareOn units) fun v w => texts v.label w.label)

/-- The order of values, with texts in the order of code points or, without regard to the case of
ASCII letters, of what precedes a NUL, and then by size. -/
def order (ignoringCase : Bool) : Value → Value → Ordering :=
  rank (if ignoringCase then cmpIgnoringCase else Ord.compare)

instance : TransCmp cmpIgnoringCase := by
  have texts : TransCmp fun a b : String =>
      Ord.compare ((beforeNul a).map Char.toLower) ((beforeNul b).map Char.toLower) :=
    transCmp_comap _
  have sizes : TransCmp fun a b : String => Ord.compare a.utf8ByteSize b.utf8ByteSize :=
    transCmp_comap _
  exact inferInstanceAs (TransCmp (compareLex _ _))

section Rank

variable {texts : String → String → Ordering}

instance [TransCmp texts] : TransCmp (rank texts) := by
  have labels : TransCmp fun v w : Value => texts v.label w.label := transCmp_comap label
  exact inferInstanceAs (TransCmp (compareLex _ (compareLex _ _)))

instance (ignoringCase : Bool) : TransCmp (order ignoringCase) := by
  rw [order]
  split <;> infer_instance

theorem rank_of_lt {v w : Value} (h : v.kind < w.kind) : rank texts v w = .lt := by
  rw [rank, compareLex, compareOn, Nat.compare_eq_lt.mpr h]
  rfl

theorem rank_of_gt {v w : Value} (h : w.kind < v.kind) : rank texts v w = .gt := by
  rw [rank, compareLex, compareOn, Nat.compare_eq_gt.mpr h]
  rfl

theorem rank_of_eq {v w : Value} (h : v.kind = w.kind) :
    rank texts v w = (Ord.compare v.units w.units).then (texts v.label w.label) := by
  rw [rank, compareLex, compareOn, h, ReflOrd.compare_self]
  rfl

theorem rank_texts (s t : String) : rank texts (text s) (text t) = texts s t := by
  have hunits : Ord.compare (units (text s)) (units (text t)) = .eq := ReflOrd.compare_self
  have hkind : kind (text s) = kind (text t) := rfl
  rw [rank_of_eq hkind, hunits]
  rfl

theorem rank_numbers [ReflCmp texts] {v w : Value} (hv : v.kind = 1) (hw : w.kind = 1) :
    rank texts v w = Ord.compare v.units w.units := by
  have hlabel : ∀ {v : Value}, v.kind = 1 → v.label = "" := by
    intro v hv
    cases v with
    | text s => cases hv
    | _ => rfl
  have htexts : texts v.label w.label = .eq := by
    rw [hlabel hv, hlabel hw]
    exact ReflCmp.compare_self
  rw [rank_of_eq (hv.trans hw.symm), htexts, Ordering.then_eq]

theorem compare_units (a b : Int64) :
    Ord.compare (units (integer a)) (units (integer b)) = Ord.compare a.toInt b.toInt := by
  have hpos : ∀ n, (0 : Int) < Nat.pow 2 n := fun n => Int.natCast_pos.mpr (Nat.two_pow_pos n)
  rw [units, units, compare_mul a.toInt b.toInt (hpos 1074)]

/-- Values that are not both texts are compared by rank, however texts are. -/
theorem cmp_eq_rank [TransCmp texts] {v w : Value} (other : v.kind ≠ 2 ∨ w.kind ≠ 2) :
    v.cmp w = rank texts v w := by
  cases v with
  | null =>
    cases w with
    | null =>
      have hself : rank texts null null = .eq := ReflCmp.compare_self
      exact hself.symm
    | _ => exact (rank_of_lt (by simp [kind])).symm
  | integer a =>
    cases w with
    | null => exact (rank_of_gt (by simp [kind])).symm
    | integer b =>
      rw [rank_numbers rfl rfl, compare_units]
      rfl
    | real y =>
      rw [rank_numbers rfl rfl]
      rfl
    | text t => exact (rank_of_lt (by simp [kind])).symm
  | real x =>
    cases w with
    | null => exact (rank_of_gt (by simp [kind])).symm
    | integer b =>
      rw [rank_numbers rfl rfl]
      exact OrientedOrd.eq_swap.symm
    | real y =>
      rw [rank_numbers rfl rfl]
      rfl
    | text t => exact (rank_of_lt (by simp [kind])).symm
  | text s =>
    cases w with
    | text t => exact absurd rfl (other.elim id id)
    | _ => exact (rank_of_gt (by simp [kind])).symm

end Rank

/-- The store puts rows in this order of their values. -/
theorem cmpFor_eq_order (ignoringCase : Bool) (v w : Value) :
    cmpFor ignoringCase v w = order ignoringCase v w := by
  by_cases other : v.kind ≠ 2 ∨ w.kind ≠ 2
  · have hcmp : cmpFor ignoringCase v w = v.cmp w := by
      cases ignoringCase with
      | false => rfl
      | true => cases v <;> cases w <;> first | rfl | exact absurd rfl (other.elim id id)
    rw [hcmp, order]
    split <;> exact cmp_eq_rank other
  · cases v with
    | text s =>
      cases w with
      | text t =>
        rw [order, rank_texts]
        cases ignoringCase <;> rfl
      | _ => exact absurd (.inr (by simp [kind])) other
    | _ => exact absurd (.inl (by simp [kind])) other

end Sql.Value

/-- The order of values from the least to the greatest, or the other way round. -/
def SortDirection.order (d : SortDirection) (ignoringCase : Bool) (v w : Value) : Ordering :=
  match d with
  | .asc => v.order ignoringCase w
  | .desc => w.order ignoringCase v

instance (d : SortDirection) (ignoringCase : Bool) : TransCmp (d.order ignoringCase) := by
  cases d with
  | asc => exact inferInstanceAs (TransCmp (Value.order ignoringCase))
  | desc => exact @TransCmp.opposite _ _ (inferInstanceAs (TransCmp (Value.order ignoringCase)))

/-! ### Rows -/

/-- The order in which a term puts two rows of the root. -/
def OrderTerm.order (t : OrderTerm) (a b : Store.Record) : Ordering :=
  let v := a.value t.column.name
  let w := b.value t.column.name
  match t.direction with
  | .asc => v.order t.caseInsensitive w
  | .desc => w.order t.caseInsensitive v

instance (t : OrderTerm) : TransCmp t.order :=
  @transCmp_comap _ _ (t.direction.order t.caseInsensitive) _ fun a : Store.Record =>
    a.value t.column.name

namespace Store

/-- The terms put one row before the other: the first of them that tells the rows apart does. -/
inductive Precedes (a b : Record) : List OrderTerm → Prop
  | first {t : OrderTerm} {rest : List OrderTerm} : t.order a b = .lt → Precedes a b (t :: rest)
  | later {t : OrderTerm} {rest : List OrderTerm} :
    t.order a b = .eq → Precedes a b rest → Precedes a b (t :: rest)

/-- The order in which a statement with these terms puts two rows. -/
def cmpTerms (terms : List OrderTerm) (a b : Record) : Ordering :=
  cmpRows (orderKeys terms) [a.frame rootRow] [b.frame rootRow]

variable {terms : List OrderTerm} {a b : Record}

theorem cmpTerms_cons (t : OrderTerm) (terms : List OrderTerm) (a b : Record) :
    cmpTerms (t :: terms) a b = (t.order a b).then (cmpTerms terms a b) := by
  have hterm : OrderBy.cmp ⟨⟨rootRow, t.column.name⟩, t.caseInsensitive, t.direction⟩
      [a.frame rootRow] [b.frame rootRow] = t.order a b := by
    simp only [OrderBy.cmp, OrderTerm.order, Record.value_frame, Value.cmpFor_eq_order]
    cases t.direction with
    | asc => rfl
    | desc => exact OrientedCmp.eq_swap.symm
  rw [← hterm]
  rfl

instance (terms : List OrderTerm) : TransCmp (cmpTerms terms) := by
  induction terms with
  | nil => exact { eq_swap := rfl, isLE_trans := fun _ _ => rfl }
  | cons t rest ih =>
    have hlex : cmpTerms (t :: rest) = compareLex t.order (cmpTerms rest) := by
      funext a b
      exact cmpTerms_cons t rest a b
    rw [hlex]
    infer_instance

theorem precedes_iff : Precedes a b terms ↔ cmpTerms terms a b = .lt := by
  induction terms with
  | nil =>
    constructor
    · intro h
      cases h
    · intro h
      cases h
  | cons t rest ih =>
    rw [cmpTerms_cons, Ordering.then_eq_lt, ← ih]
    constructor
    · rintro (h | ⟨h, hrest⟩)
      · exact .inl h
      · exact .inr ⟨h, hrest⟩
    · rintro (h | ⟨h, hrest⟩)
      · exact .first h
      · exact .later h hrest

theorem Precedes.asymm (h : Precedes a b terms) : ¬ Precedes b a terms := by
  rw [precedes_iff] at h ⊢
  rw [OrientedCmp.gt_of_lt h]
  decide

/-- Further terms do not matter to rows that are told apart. -/
theorem Precedes.append (h : Precedes a b terms) (more : List OrderTerm) :
    Precedes a b (terms ++ more) := by
  induction h with
  | first h => exact .first h
  | later h _ ih => exact .later h ih

def sortRows (terms : List OrderTerm) (rows : List Record) : List Record :=
  sortBy (cmpTerms terms · · != .gt) rows

theorem sortRows_perm (terms : List OrderTerm) (rows : List Record) :
    (sortRows terms rows).Perm rows :=
  sortBy_perm _ rows

/-- Whatever the order in which rows were, sorting leaves them in one order but for rows that are
left equal. -/
theorem sortRows_tied {rows rows' : List Record} (perm : rows.Perm rows') :
    List.Forall₂ (Ties terms) (sortRows terms rows) (sortRows terms rows') := by
  have same : (sortRows terms rows).Perm (sortRows terms rows') :=
    ((sortRows_perm terms rows).trans perm).trans (sortRows_perm terms rows').symm
  have h : List.Forall₂ (fun a b => cmpTerms terms a b = .eq) (sortRows terms rows)
      (sortRows terms rows') :=
    sorted_tied same (sortBy_sorted rows) (sortBy_sorted rows')
  exact h

section Apart

variable {rows rows' found : List Record} (perm : rows.Perm found) (perm' : rows'.Perm found)
  (apart : found.Pairwise fun a b => ¬ Ties terms a b)

include perm apart

/-- Rows of which no two are left equal are put in order by sorting. -/
theorem sortRows_sorted : (sortRows terms rows).Pairwise (Precedes · · terms) := by
  have symm : ∀ {a b : Record}, ¬ Ties terms a b → ¬ Ties terms b a := by
    intro a b h ties
    have heq : cmpTerms terms b a = .eq := ties
    have heq' : cmpTerms terms a b = .eq := OrientedCmp.eq_symm heq
    exact h heq'
  have strict := apart.perm ((sortRows_perm terms rows).trans perm).symm symm
  refine ((sortBy_sorted rows).and strict).imp ?_
  rintro a b ⟨hle, hne⟩
  rw [precedes_iff]
  exact (Ordering.isLE_iff_eq_lt_or_eq_eq.mp hle).resolve_right hne

include perm'

/-- There is one way to put such rows in order, whatever the order in which they were. -/
theorem sortRows_unique : sortRows terms rows = sortRows terms rows' := by
  have same : (sortRows terms rows).Perm (sortRows terms rows') :=
    ((sortRows_perm terms rows).trans perm).trans ((sortRows_perm terms rows').trans perm').symm
  exact same.eq_of_pairwise (fun _ _ _ _ h h' => absurd h' h.asymm) (sortRows_sorted perm apart)
    (sortRows_sorted perm' apart)

end Apart

end Store

end FieldSearch
