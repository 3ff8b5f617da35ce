import FieldSearch.Proofs.Sql.Token

/-!
# The tokens of a rendered statement

Every part of a statement is read back as tokens of its own: names keep within their quotes, and no
token runs on into the part that follows it.
-/

namespace FieldSearch.Sql

theorem name_toList (o : Occurrence) :
    o.name.toList = 't' :: Nat.toDigits 10 o.id.toNat := by
  simp [Occurrence.name, toString, Nat.toList_repr]

theorem link_toList (o : Occurrence) :
    (o.name ++ "_link").toList = 't' :: (Nat.toDigits 10 o.id.toNat ++ "_link".toList) := by
  rw [String.toList_append, name_toList, List.cons_append]

theorem RowName.text_ne (r : RowName) (word : String) (h : word.toList.head? ≠ some 't') :
    r.text ≠ word := by
  rintro rfl
  refine h ?_
  cases r with
  | row o => rw [text, name_toList]; rfl
  | link o => rw [text, link_toList]; rfl

/-! ### What the parts are read as -/

def ColumnName.tokens (c : ColumnName) : List Token :=
  [.word c.row.text, .symbol ".", .quoted c.column]

def TableRef.tokens (t : TableRef) : List Token := [.quoted t.table, .word "AS", .word t.row.text]

def comparisonToken : Comparison → Token
  | .eq => .symbol "="
  | .ne => .symbol "<>"
  | .like => .word "LIKE"
  | .regex => .word "REGEXP"
  | .lt => .symbol "<"
  | .le => .symbol "<="
  | .gt => .symbol ">"
  | .ge => .symbol ">="
  | .isIn => .word "IN"

def Join.tokens (j : Join) : List Token :=
  [.word "JOIN"] ++ j.source.tokens ++ [.word "ON"] ++ j.left.tokens ++ [.symbol "="] ++
    j.right.tokens

def Related.tokens (r : Related) : List Token :=
  [.word "SELECT", .word "1", .word "FROM"] ++ r.source.tokens ++
    (r.join.map Join.tokens).getD [] ++ [.word "WHERE"] ++ r.inner.tokens ++ [.symbol "="] ++
    r.outer.tokens

/-- The tokens of a list, those of its members apart. -/
def listTokens (separator : Token) (parts : List (List Token)) : List Token :=
  [separator].intercalate parts

theorem listTokens_cons_cons (separator : Token) (part next : List Token)
    (others : List (List Token)) :
    listTokens separator (part :: next :: others) =
      part ++ separator :: listTokens separator (next :: others) := by
  rw [listTokens, List.intercalate_cons_cons, List.append_assoc]
  rfl

/-- What is picked out of the members of a list, where nothing is picked out of what separates
them. -/
theorem listTokens_filterMap {α : Type} {pick : Token → Option α} {separator : Token}
    (hsep : pick separator = none) (parts : List (List Token)) :
    (listTokens separator parts).filterMap pick = parts.flatMap (·.filterMap pick) := by
  induction parts with
  | nil => rfl
  | cons part rest ih =>
    cases rest with
    | nil => simp [listTokens]
    | cons next others =>
      rw [listTokens_cons_cons, List.filterMap_append, List.filterMap_cons_none hsep, ih,
        ← List.flatMap_cons]

namespace Condition

mutual

def tokens : Condition → List Token
  | compare column comparison n => column.tokens ++ [comparisonToken comparison, .placeholder n]
  | isIn column ns =>
    column.tokens ++ [.word "IN", .symbol "("] ++
      listTokens (.symbol ",") (ns.map fun n => [.placeholder n]) ++ [.symbol ")"]
  | isNull column => column.tokens ++ [.word "IS", .word "NULL"]
  | isNotNull column => column.tokens ++ [.word "IS", .word "NOT", .word "NULL"]
  | existsWith rows condition =>
    [.word "EXISTS", .symbol "("] ++ rows.tokens ++ [.word "AND", .symbol "("] ++
      tokens condition ++ [.symbol ")", .symbol ")"]
  | existsAny rows => [.word "EXISTS", .symbol "("] ++ rows.tokens ++ [.symbol ")"]
  | existsNone rows =>
    [.word "NOT", .word "EXISTS", .symbol "("] ++ rows.tokens ++ [.symbol ")"]
  | not condition => [.word "NOT", .symbol "("] ++ tokens condition ++ [.symbol ")"]
  | and [] => [.word "1"]
  | and (part :: rest) => listTokens (.word "AND") (partsTokens (part :: rest))
  | or [] => [.word "0"]
  | or (part :: rest) => listTokens (.word "OR") (partsTokens (part :: rest))

def partsTokens : List Condition → List (List Token)
  | [] => []
  | part :: rest => ([.symbol "("] ++ tokens part ++ [.symbol ")"]) :: partsTokens rest

end

/-- Induction over a condition, with the hypothesis for each of the parts. -/
@[elab_as_elim]
theorem induct {motive : Condition → Prop}
    (compare : ∀ column comparison n, motive (.compare column comparison n))
    (isIn : ∀ column ns, motive (.isIn column ns)) (isNull : ∀ column, motive (.isNull column))
    (isNotNull : ∀ column, motive (.isNotNull column))
    (existsWith : ∀ rows inner, motive inner → motive (.existsWith rows inner))
    (existsAny : ∀ rows, motive (.existsAny rows))
    (existsNone : ∀ rows, motive (.existsNone rows))
    (not : ∀ inner, motive inner → motive (.not inner))
    (and : ∀ parts, (∀ part ∈ parts, motive part) → motive (.and parts))
    (or : ∀ parts, (∀ part ∈ parts, motive part) → motive (.or parts))
    (c : Condition) : motive c :=
  @Condition.rec motive (fun cs => ∀ c ∈ cs, motive c) compare isIn isNull isNotNull existsWith
    existsAny existsNone not and or (by simp)
    (fun _ _ first rest => List.forall_mem_cons.mpr ⟨first, rest⟩) c

@[simp]
theorem texts_eq (parts : List Condition) :
    texts parts = parts.map fun part => "(" ++ part.text ++ ")" := by
  induction parts with
  | nil => rfl
  | cons part rest ih => rw [texts, ih, List.map_cons]

@[simp]
theorem partsTokens_eq (parts : List Condition) :
    partsTokens parts = parts.map fun part => [.symbol "("] ++ part.tokens ++ [.symbol ")"] := by
  induction parts with
  | nil => rfl
  | cons part rest ih => rw [partsTokens, ih, List.map_cons]

end Condition

def directionToken : SortDirection → Token
  | .asc => .word "ASC"
  | .desc => .word "DESC"

def OrderBy.tokens (o : OrderBy) : List Token :=
  o.column.tokens ++ (if o.caseInsensitive then [.word "COLLATE", .word "NOCASE"] else []) ++
    [directionToken o.direction]

def orderTokens : List OrderBy → List Token
  | [] => []
  | terms => [.word "ORDER", .word "BY"] ++ listTokens (.symbol ",") (terms.map OrderBy.tokens)

def Window.tokens (w : Window) : List Token :=
  [.word "LIMIT", .placeholder w.limit, .word "OFFSET", .placeholder w.offset]

def Output.tokens : Output → List Token
  | column name => name.tokens
  | count => [.word "COUNT", .symbol "(", .symbol "*", .symbol ")"]

def Select.tokens (s : Select) : List Token :=
  [.word "SELECT"] ++ s.output.tokens ++ [.word "FROM"] ++ s.source.tokens ++ [.word "WHERE"] ++
    s.condition.tokens ++ orderTokens s.order ++ (s.window.map Window.tokens).getD []

/-! ### The parts are read so -/

open Token

theorem separated_of {text : String} {c : Char} {rest : List Char} (h : text.toList = c :: rest)
    (hc : isSeparator c = true) : Separated text := ⟨c, rest, h, hc⟩

theorem separated_blank : Separated " " := ⟨' ', [], rfl, rfl⟩

theorem opens_blank : Opens " " [] := rfl

theorem RowName.reads (r : RowName) : Reads r.text [.word r.text] := by
  have hdigits : ∀ (n : Nat), ∀ d ∈ Nat.toDigits 10 n, isWordChar d = true := by
    intro n d hd
    have h := Nat.isDigit_of_mem_toDigits (by decide) (by decide) hd
    simp [isWordChar, Char.isAlphanum, h]
  cases r with
  | row o =>
    have h := reads_word (c := 't') (by decide) (hdigits o.id.toNat)
    rwa [← name_toList, String.ofList_toList] at h
  | link o =>
    have hrest : ∀ d ∈ Nat.toDigits 10 o.id.toNat ++ "_link".toList, isWordChar d = true := by
      rw [List.forall_mem_append]
      exact ⟨hdigits _, by simp [isWordChar]⟩
    have h := reads_word (c := 't') (by decide) hrest
    rwa [← link_toList, String.ofList_toList] at h

theorem ColumnName.reads (c : ColumnName) : Reads c.text c.tokens := by
  have hdot : Opens "." [.symbol "."] := by decide
  have h := (c.row.reads.opens (separated_of rfl rfl) hdot).reads (reads_quoteIdentifier c.column)
  exact h

theorem TableRef.reads (t : TableRef) : Reads t.text t.tokens := by
  have has : Opens " AS " [.word "AS"] := by decide
  exact ((reads_quoteIdentifier t.table).opens (separated_of rfl rfl) has).reads t.row.reads

theorem reads_comparison (c : Comparison) : Reads (comparisonText c) [comparisonToken c] := by
  cases c <;> rfl

theorem Join.separated (j : Join) : Separated j.text := by
  have h : Separated " JOIN " := separated_of rfl rfl
  exact h.append.append.append.append.append

theorem Join.reads (j : Join) : Reads j.text j.tokens := by
  have hjoin : Opens " JOIN " [.word "JOIN"] := by decide
  have hon : Opens " ON " [.word "ON"] := by decide
  have heq : Opens " = " [.symbol "="] := by decide
  have h := ((hjoin.reads j.source.reads).opens (separated_of rfl rfl) hon).reads j.left.reads
  exact (h.opens (separated_of rfl rfl) heq).reads j.right.reads

theorem Related.reads (r : Related) : Reads r.text r.tokens := by
  have hselect : Opens "SELECT 1 FROM " [.word "SELECT", .word "1", .word "FROM"] := by
    decide
  have hwhere : Opens " WHERE " [.word "WHERE"] := by decide
  have heq : Opens " = " [.symbol "="] := by decide
  have hrows : Reads ("SELECT 1 FROM " ++ r.source.text ++ (r.join.map Join.text).getD "")
      ([.word "SELECT", .word "1", .word "FROM"] ++ r.source.tokens ++
        (r.join.map Join.tokens).getD []) := by
    have h := hselect.reads r.source.reads
    rcases r.join with _ | j
    · simpa only [Option.map_none, Option.getD_none, String.append_empty, List.append_nil] using h
    · simpa only [Option.map_some, Option.getD_some] using h.reads j.separated j.reads
  have h := (hrows.opens (separated_of rfl rfl) hwhere).reads r.inner.reads
  exact (h.opens (separated_of rfl rfl) heq).reads r.outer.reads

/-- Members of a list are read one by one if what stands between them is told apart. -/
theorem reads_list {α : Type} {text : α → String} {ts : α → List Token} {separator : String}
    {token : Token} (hsep : Separated separator) (hopens : Opens separator [token])
    {as : List α} (h : ∀ a ∈ as, Reads (text a) (ts a)) :
    Reads (separator.intercalate (as.map text)) (listTokens token (as.map ts)) := by
  induction as with
  | nil => rfl
  | cons a rest ih =>
    rw [List.forall_mem_cons] at h
    cases rest with
    | nil => simpa [listTokens] using h.1
    | cons b others =>
      have hrest := (h.1.opens hsep hopens).reads (ih h.2)
      simpa [listTokens, String.intercalate_cons_cons, List.intercalate_cons_cons] using hrest

/-- Parts in parentheses are read one by one. -/
theorem Condition.reads_parts {parts : List Condition} {separator : String} {token : Token}
    (hsep : Separated separator) (hopens : Opens separator [token])
    (h : ∀ part ∈ parts, Reads part.text part.tokens) :
    Reads (separator.intercalate (texts parts)) (listTokens token (partsTokens parts)) := by
  have hopen : Opens "(" [.symbol "("] := by decide
  have hclose : Reads ")" [.symbol ")"] := by decide
  rw [texts_eq, partsTokens_eq]
  refine reads_list hsep hopens fun part hpart => ?_
  exact (hopen.reads (h part hpart)).reads (separated_of rfl rfl) hclose

theorem Condition.reads (c : Condition) : Reads c.text c.tokens := by
  have hclose : Reads ")" [.symbol ")"] := by decide
  have hexists : Opens "EXISTS (" [.word "EXISTS", .symbol "("] := by decide
  induction c using Condition.induct with
  | compare column comparison n =>
    have h := (column.reads.opens separated_blank opens_blank).reads
      (reads_comparison comparison)
    have h := (h.opens separated_blank opens_blank).reads (reads_placeholder n)
    simpa only [text, tokens, List.append_nil, List.append_assoc, List.singleton_append] using h
  | isIn column ns =>
    have hin : Opens " IN (" [.word "IN", .symbol "("] := by decide
    have hcomma : Opens ", " [.symbol ","] := by decide
    have hlist := reads_list (separated_of rfl rfl) hcomma fun n (_ : n ∈ ns) =>
      reads_placeholder n
    have h := (column.reads.opens (separated_of rfl rfl) hin).reads hlist
    exact h.reads (separated_of rfl rfl) hclose
  | isNull column =>
    have hnull : Reads " IS NULL" [.word "IS", .word "NULL"] := by decide
    exact column.reads.reads (separated_of rfl rfl) hnull
  | isNotNull column =>
    have hnull : Reads " IS NOT NULL" [.word "IS", .word "NOT", .word "NULL"] := by decide
    exact column.reads.reads (separated_of rfl rfl) hnull
  | existsWith rows inner ih =>
    have hand : Opens " AND (" [.word "AND", .symbol "("] := by decide
    have hends : Reads "))" [.symbol ")", .symbol ")"] := by decide
    have h := ((hexists.reads rows.reads).opens (separated_of rfl rfl) hand).reads ih
    exact h.reads (separated_of rfl rfl) hends
  | existsAny rows => exact (hexists.reads rows.reads).reads (separated_of rfl rfl) hclose
  | existsNone rows =>
    have hnone : Opens "NOT EXISTS (" [.word "NOT", .word "EXISTS", .symbol "("] := by
      decide
    exact (hnone.reads rows.reads).reads (separated_of rfl rfl) hclose
  | not inner ih =>
    have hnot : Opens "NOT (" [.word "NOT", .symbol "("] := by decide
    exact (hnot.reads ih).reads (separated_of rfl rfl) hclose
  | and parts ih =>
    have hand : Opens " AND " [.word "AND"] := by decide
    cases parts with
    | nil => rfl
    | cons part rest => exact reads_parts (separated_of rfl rfl) hand ih
  | or parts ih =>
    have hor : Opens " OR " [.word "OR"] := by decide
    cases parts with
    | nil => rfl
    | cons part rest => exact reads_parts (separated_of rfl rfl) hor ih

theorem OrderBy.reads (o : OrderBy) : Reads o.text o.tokens := by
  have hdirection : Reads (directionText o.direction) [directionToken o.direction] := by
    cases o.direction <;> rfl
  cases hc : o.caseInsensitive with
  | false =>
    have h := (o.column.reads.opens separated_blank opens_blank).reads hdirection
    simpa [text, tokens, hc] using h
  | true =>
    have hcollate : Opens " COLLATE NOCASE " [.word "COLLATE", .word "NOCASE"] := by decide
    have h := (o.column.reads.opens (separated_of rfl rfl) hcollate).reads hdirection
    simpa [text, tokens, hc] using h

/-- What follows the condition of a statement, if anything does. -/
def Select.tail (s : Select) : String := orderText s.order ++ (s.window.map Window.text).getD ""

def Select.tailTokens (s : Select) : List Token :=
  orderTokens s.order ++ (s.window.map Window.tokens).getD []

theorem Select.reads_tail (s : Select) : s.tail = "" ∧ s.tailTokens = [] ∨
    Separated s.tail ∧ Reads s.tail s.tailTokens := by
  have horder : Opens " ORDER BY " [.word "ORDER", .word "BY"] := by decide
  have hcomma : Opens ", " [.symbol ","] := by decide
  have hlimit : Opens " LIMIT " [.word "LIMIT"] := by decide
  have hoffset : Opens " OFFSET " [.word "OFFSET"] := by decide
  have hwindow : ∀ w : Window, Separated w.text ∧ Reads w.text w.tokens := by
    intro w
    have hs : Separated " LIMIT " := separated_of rfl rfl
    exact ⟨hs.append.append.append, ((hlimit.reads (reads_placeholder w.limit)).opens
      (separated_of rfl rfl) hoffset).reads (reads_placeholder w.offset)⟩
  have hterms : ∀ o rest, Separated (orderText (o :: rest)) ∧
      Reads (orderText (o :: rest)) (orderTokens (o :: rest)) := by
    intro o rest
    have hs : Separated " ORDER BY " := separated_of rfl rfl
    exact ⟨hs.append, horder.reads (reads_list (separated_of rfl rfl) hcomma
      fun o _ => o.reads)⟩
  rw [tail, tailTokens]
  cases s.order with
  | nil =>
    cases s.window with
    | none => exact .inl ⟨rfl, rfl⟩
    | some w => simpa [orderText, orderTokens] using Or.inr (hwindow w)
  | cons o rest =>
    obtain ⟨hs, hr⟩ := hterms o rest
    cases s.window with
    | none => simpa using Or.inr ⟨hs, hr⟩
    | some w => exact .inr ⟨hs.append, hr.reads (hwindow w).1 (hwindow w).2⟩

/-- What stands before the condition of a statement. -/
def Select.head (s : Select) : String :=
  "SELECT " ++ s.output.text ++ " FROM " ++ s.source.text ++ " WHERE "

def Select.headTokens (s : Select) : List Token :=
  [.word "SELECT"] ++ s.output.tokens ++ [.word "FROM"] ++ s.source.tokens ++ [.word "WHERE"]

theorem Select.text_eq (s : Select) : s.text = s.head ++ s.condition.text ++ s.tail := by
  simp [text, head, tail, String.append_assoc]

theorem Select.tokens_eq (s : Select) :
    s.tokens = s.headTokens ++ s.condition.tokens ++ s.tailTokens := by
  simp [tokens, headTokens, tailTokens]

theorem Select.opens_head (s : Select) : Opens s.head s.headTokens := by
  have hselect : Opens "SELECT " [.word "SELECT"] := by decide
  have hfrom : Opens " FROM " [.word "FROM"] := by decide
  have hwhere : Opens " WHERE " [.word "WHERE"] := by decide
  have houtput : Reads s.output.text s.output.tokens := by
    cases s.output with
    | column c => exact c.reads
    | count => rfl
  exact (((hselect.reads houtput).opens (separated_of rfl rfl) hfrom).reads
    s.source.reads).opens (separated_of rfl rfl) hwhere

/-- A statement is read as its tokens. -/
theorem Select.reads (s : Select) : Reads s.text s.tokens := by
  rw [text_eq, tokens_eq]
  have h := s.opens_head.reads s.condition.reads
  rcases s.reads_tail with ⟨htail, htokens⟩ | ⟨hs, hr⟩
  · simpa [htail, htokens] using h
  · exact h.reads hs hr

end FieldSearch.Sql
