import FieldSearch.Proofs.Sql.Rendering
import FieldSearch.Proofs.Store.Hosts
import FieldSearch.Store.Select

/-!
# Names refer to something

In a store that carries a schema every name in a statement of a well-formed plan refers to
something, so the store does not refuse the statement.
-/

namespace FieldSearch

open Sql

namespace Store

variable {st : Store} {registry : Registry}

theorem Carries.table (carries : st.Carries registry) {table column : String}
    (declared : Declares (Sql.tables registry) table column) :
    ∃ t, st.table? table = some t ∧ (t.definition.columnIndex? column).isSome := by
  obtain ⟨d, hd, rfl, c, hc, rfl⟩ := declared
  obtain ⟨t, ht, -, hhas⟩ := carries d hd
  exact ⟨t, ht, hhas c hc⟩

/-- The frame is one of a table of the store. -/
def Frame.IsOf (st : Store) (table : String) (f : Frame) : Prop :=
  ∃ t, st.table? table = some t ∧ f.definition = t.definition

theorem Frames.has_of_mem {fs : Frames} {f : Frame} (hf : f ∈ fs) {column : String}
    (h : (f.definition.columnIndex? column).isSome) : fs.has ⟨f.row, column⟩ = true := by
  induction fs with
  | nil => cases hf
  | cons g rest ih =>
    rw [has, column?]
    split
    next => rfl
    next hnone =>
      rcases List.mem_cons.mp hf with rfl | hf
      · rw [Frame.columnIndex?, if_pos rfl] at hnone
        rw [hnone] at h
        cases h
      · exact ih hf

/-- A declared column is found in the frames if the frame of its table is there. -/
theorem Carries.has (carries : st.Carries registry) {table column : String}
    (declared : Declares (Sql.tables registry) table column) {fs : Frames} {f : Frame}
    (hf : f ∈ fs) (isOf : f.IsOf st table) : fs.has ⟨f.row, column⟩ = true := by
  obtain ⟨t, ht, hcolumn⟩ := carries.table declared
  obtain ⟨u, hu, hdef⟩ := isOf
  cases ht.symm.trans hu
  exact Frames.has_of_mem hf (hdef ▸ hcolumn)

/-- A row name has a frame of the table. -/
def Frames.Covers (st : Store) (fs : Frames) (row : RowName) (table : String) : Prop :=
  ∃ f ∈ fs, f.row = row ∧ f.IsOf st table

theorem Carries.has_column (carries : st.Carries registry) {table column : String}
    (declared : Declares (Sql.tables registry) table column) {fs : Frames} {row : RowName}
    (covers : fs.Covers st row table) : fs.has ⟨row, column⟩ = true := by
  obtain ⟨f, hf, rfl, isOf⟩ := covers
  exact carries.has declared hf isOf

theorem covers_frame {t : Table} {table : String} (ht : st.table? table = some t) (row : RowName)
    (fs : Frames) : Frames.Covers st (t.frame row :: fs) row table :=
  ⟨t.frame row, List.mem_cons_self, rfl, t, ht, rfl⟩

theorem Frames.Covers.cons {fs : Frames} {row : RowName} {table : String}
    (covers : fs.Covers st row table) (f : Frame) : Frames.Covers st (f :: fs) row table := by
  obtain ⟨g, hg, h⟩ := covers
  exact ⟨g, List.mem_cons_of_mem f hg, h⟩

section Related

variable (carries : st.Carries registry) (consistent : registry.Consistent)

include carries consistent

/-- The names by which rows are related refer to something, and so do those of the target. -/
theorem Carries.related_isBound {b : Binding} (fits : b.Fits registry) {fs : Frames}
    (root : fs.Covers st rootRow b.source.table) (o : Occurrence) {inner : Frames → Bool}
    (h : ∀ gs : Frames, gs.Covers st rootRow b.source.table →
      gs.Covers st (.row o) b.target.table → inner gs = true) :
    st.isBoundWith fs (b.related o) inner = true := by
  have htarget := (Registry.entity?_eq_some fits.target).1
  have hsource := tables_declare_key fits.source consistent
  have hkey := tables_declare_key htarget consistent
  have hplaces := tables_declare_relation fits.source fits.relation fits.target
  obtain ⟨t, ht, -⟩ := carries.table hkey
  cases hj : b.relation.join with
  | foreignKey column =>
    simp only [Relation.places, hj, List.forall_mem_singleton] at hplaces
    have hroot := root.cons (t.frame (.row o))
    have hrow := covers_frame ht (.row o) fs
    simp [isBoundWith, scope?, Binding.related, hj, ht, h _ hroot hrow,
      carries.has_column hplaces hroot, carries.has_column hkey hrow]
  | reverse column =>
    simp only [Relation.places, hj, List.forall_mem_singleton] at hplaces
    have hroot := root.cons (t.frame (.row o))
    have hrow := covers_frame ht (.row o) fs
    simp [isBoundWith, scope?, Binding.related, hj, ht, h _ hroot hrow,
      carries.has_column hplaces hrow, carries.has_column hsource hroot]
  | association table sourceColumn targetColumn =>
    simp only [Relation.places, hj, List.forall_mem_cons] at hplaces
    obtain ⟨hsourceColumn, htargetColumn, -⟩ := hplaces
    obtain ⟨link, hlink, -⟩ := carries.table hsourceColumn
    have hroot := (root.cons (t.frame (.row o))).cons (link.frame (.link o))
    have hrow := (covers_frame ht (.row o) fs).cons (link.frame (.link o))
    have hlinked := covers_frame hlink (.link o) (t.frame (.row o) :: fs)
    simp [isBoundWith, scope?, Binding.related, hj, ht, hlink, h _ hroot hrow,
      carries.has_column hsourceColumn hlinked, carries.has_column htargetColumn hlinked,
      carries.has_column hkey hrow, carries.has_column hsource hroot]

theorem Carries.presence_isBound {b : Binding} (fits : b.Fits registry) {fs : Frames}
    (root : fs.Covers st rootRow b.source.table) (o : Occurrence) (present : Bool) :
    (b.presence o present).isBound st fs = true := by
  have hrelated : st.isBoundWith fs (b.related o) (fun _ => true) = true :=
    carries.related_isBound consistent fits root o fun _ _ _ => rfl
  have hplaces := tables_declare_relation fits.source fits.relation fits.target
  cases hj : b.relation.join with
  | foreignKey column =>
    simp only [Relation.places, hj, List.forall_mem_singleton] at hplaces
    have hcolumn := carries.has_column hplaces root
    cases present <;> simpa [Binding.presence, hj, Condition.isBound] using hcolumn
  | reverse column =>
    cases present <;> simpa [Binding.presence, hj, Condition.isBound] using hrelated
  | association table sourceColumn targetColumn =>
    cases present <;> simpa [Binding.presence, hj, Condition.isBound] using hrelated

end Related

@[simp]
theorem allBound_iff {fs : Frames} {cs : List Condition} :
    Condition.allBound st fs cs = true ↔ ∀ c ∈ cs, c.isBound st fs = true := by
  induction cs with
  | nil => simp [Condition.allBound]
  | cons c rest ih => rw [Condition.allBound, Bool.and_eq_true, ih, List.forall_mem_cons]

/-- The frames of the root and, inside the condition on an occurrence, of its target are there. -/
def Frames.Provides (st : Store) (fs : Frames) (s : Sql.Scope) (inside : Option Occurrence) :
    Prop :=
  ∀ o e, s.StandsFor inside o e → fs.Covers st (.row o) e.table

section Condition

variable {root : Entity} {joins : List JoinEntry} {s : Sql.Scope} {fs : Frames}
  {inside : Option Occurrence}

theorem Frames.Provides.exist {o : Occurrence} {b : Binding} (hb : s.binding o = .ok b)
    (hroot : fs.Covers st rootRow s.root.table) (hrow : fs.Covers st (.row o) b.target.table) :
    fs.Provides st s (some o) := by
  rintro _ _ (_ | ⟨heq, hb'⟩)
  · exact hroot
  · cases heq
    cases hb.symm.trans hb'
    exact hrow

theorem Carries.has_names (carries : st.Carries registry) (hroot : root ∈ registry.entities)
    (fits : s.Fits registry root joins) (apart : ∀ e ∈ joins, e.occurrence ≠ .root) {c : Column}
    {a : Attribute} (names : c.Names registry root joins inside a) {name : ColumnName}
    (hname : s.column c = .ok name) (provides : fs.Provides st s inside) : fs.has name = true := by
  cases (fits.column apart names).symm.trans hname
  obtain ⟨e, he, stands, hmem, hattribute⟩ := fits.entity hroot names
  rw [← hattribute]
  exact carries.has_column (tables_declare_attribute he hmem) (provides _ _ stands)

/-- All names in a rendered condition refer to something. -/
theorem Carries.condition_isBound (carries : st.Carries registry) (consistent : registry.Consistent)
    (hroot : root ∈ registry.entities) (fits : s.Fits registry root joins)
    (apart : ∀ e ∈ joins, e.occurrence ≠ .root) {p : Predicate} {next : Nat} {c : Condition}
    (h : condition s next p = .ok c) (wf : p.WellFormed registry root joins inside)
    (provides : fs.Provides st s inside) : c.isBound st fs = true := by
  refine condition_induct (motive := fun _ p c => ∀ inside,
    p.WellFormed registry root joins inside → ∀ fs : Frames, fs.Provides st s inside →
    c.isBound st fs = true)
    ?compare ?isIn ?isNull ?isNotNull ?exist ?related ?not ?and ?or p h inside wf fs provides
  case compare =>
    intro next column comparison v name hname inside wf fs provides
    cases wf with
    | compare names notIn =>
      have hhas := carries.has_names hroot fits apart names hname provides
      simp [Condition.isBound, hhas, notIn]
  case isIn =>
    intro next column vs name hname inside wf fs provides
    cases wf with
    | isIn names =>
      cases vs with
      | nil => rfl
      | cons v rest => exact carries.has_names hroot fits apart names hname provides
  case isNull =>
    intro next column name hname inside wf fs provides
    cases wf with
    | isNull names => exact carries.has_names hroot fits apart names hname provides
  case isNotNull =>
    intro next column name hname inside wf fs provides
    cases wf with
    | isNotNull names => exact carries.has_names hroot fits apart names hname provides
  case exist =>
    intro next o inner b c hb ih inside wf fs provides
    cases wf with
    | exist ho hinner =>
      obtain ⟨hfits, hsource⟩ := fits.binding_fits hroot ho hb
      have hstart : b.source = s.root := hsource.trans fits.start.symm
      refine carries.related_isBound consistent hfits (hstart ▸ provides _ _ .root) o ?_
      intro gs hgs hrow
      exact ih _ hinner gs (.exist hb (hstart ▸ hgs) hrow)
  case related =>
    intro next o present b hb inside wf fs provides
    cases wf with
    | related _ ho =>
      obtain ⟨hfits, hsource⟩ := fits.binding_fits hroot ho hb
      have hstart : b.source = s.root := hsource.trans fits.start.symm
      exact carries.presence_isBound consistent hfits (hstart ▸ provides _ _ .root) o present
  case not =>
    intro next inner c ih inside wf fs provides
    cases wf with
    | not hinner => exact ih _ hinner fs provides
  case and =>
    intro next parts cs hcs inside wf fs provides
    cases wf with
    | and _ hparts =>
      rw [Condition.isBound, allBound_iff]
      exact hcs.right fun part hpart _ _ h => h _ (hparts part hpart) fs provides
  case or =>
    intro next parts cs hcs inside wf fs provides
    cases wf with
    | or _ hparts =>
      rw [Condition.isBound, allBound_iff]
      exact hcs.right fun part hpart _ _ h => h _ (hparts part hpart) fs provides

end Condition

end Store

end FieldSearch
