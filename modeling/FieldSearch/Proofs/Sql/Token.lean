import FieldSearch.Sql.Text

/-!
# Tokens of a statement

How a statement is split into tokens. Words are runs of letters, digits and underscores; what stands
in double quotes is one name, whatever its characters, and a doubled quote in it is one quote. A
character that begins no token, such as a single quote, a semicolon or a hyphen, is refused.

Texts are put together from pieces, so what is read is said of pieces too: a text that `Reads` as
tokens may be followed by a separator, and a text that `Opens` ends between two tokens.
-/

namespace FieldSearch.Sql

inductive Token where
  | word (text : String)
  /-- A quoted identifier, without its quotes. -/
  | quoted (name : String)
  | placeholder (number : Nat)
  | symbol (text : String)
  deriving DecidableEq

namespace Token

def isBlank (c : Char) : Bool :=
  c == ' ' || c == '\t' || c == '\n' || c == '\r' || c == '\x0c'

def isWordChar (c : Char) : Bool := c.isAlphanum || c == '_' || c == '$' || 128 ≤ c.toNat

/-- The characters that are tokens by themselves. -/
def isPunctuation (c : Char) : Bool :=
  c == '(' || c == ')' || c == ',' || c == '.' || c == '=' || c == '*'

/-- What has been read of a token that may go on. -/
inductive Pending where
  | nothing
  | word (text : List Char)
  | quoted (name : List Char)
  /-- After a quote within a quoted identifier, which ends it unless a second one follows. -/
  | quote (name : List Char)
  | placeholder (digits : List Char)
  | angle (c : Char)
  deriving DecidableEq

namespace Pending

/-- The token that ends here, if it may. -/
def finish : Pending → Option (List Token)
  | nothing => some []
  | word text => some [.word (String.ofList text)]
  | quoted _ => none
  | quote name => some [.quoted (String.ofList name)]
  | placeholder digits =>
    if digits.isEmpty then none else some [.placeholder (Nat.ofDigitChars 10 digits 0)]
  | angle c => some [.symbol (String.singleton c)]

/-- The first character of a token, or a blank. -/
def start (c : Char) : Option (Pending × List Token) :=
  if isBlank c then some (nothing, [])
  else if c == '"' then some (quoted [], [])
  else if c == '?' then some (placeholder [], [])
  else if c == '<' || c == '>' then some (angle c, [])
  else if isPunctuation c then some (nothing, [.symbol (String.singleton c)])
  else if isWordChar c then some (word [c], [])
  else none

/-- End the token and begin another one. -/
def restart (p : Pending) (c : Char) : Option (Pending × List Token) := do
  let ended ← p.finish
  let (q, ts) ← start c
  pure (q, ended ++ ts)

def step (p : Pending) (c : Char) : Option (Pending × List Token) :=
  match p with
  | nothing => start c
  | word text => if isWordChar c then some (word (text ++ [c]), []) else p.restart c
  | quoted name => some (if c == '"' then quote name else quoted (name ++ [c]), [])
  | quote name => if c == '"' then some (quoted (name ++ ['"']), []) else p.restart c
  | placeholder digits =>
    if c.isDigit then some (placeholder (digits ++ [c]), []) else p.restart c
  | angle first =>
    if c == '=' || (first == '<' && c == '>') then
      some (nothing, [.symbol (String.ofList [first, c])])
    else p.restart c

/-- The tokens of a text that follows what is pending. -/
def tokens (p : Pending) : List Char → Option (List Token)
  | [] => p.finish
  | c :: rest => do
    let (q, ts) ← p.step c
    pure (ts ++ (← q.tokens rest))

/-- The tokens that end in a text, with what is pending after it. -/
def feed (p : Pending) : List Char → Option (Pending × List Token)
  | [] => some (p, [])
  | c :: rest => do
    let (q, ts) ← p.step c
    let (r, us) ← q.feed rest
    pure (r, ts ++ us)

end Pending

end Token

/-- Split a statement into tokens. -/
def tokens (text : String) : Option (List Token) := Token.Pending.nothing.tokens text.toList

namespace Token

/-- A character that ends the token before it and stands by itself. -/
def isSeparator (c : Char) : Bool := c == ' ' || c == ')' || c == ',' || c == '.' || c == '('

namespace Pending

theorem step_separator {p : Pending} {ts : List Token} (hp : p.finish = some ts) {c : Char}
    (hc : isSeparator c = true) :
    p.step c = (nothing.step c).map fun next => (next.1, ts ++ next.2) := by
  have hword : isWordChar c = false ∧ c ≠ '"' ∧ c.isDigit = false ∧ c ≠ '=' ∧ c ≠ '>' := by
    simp only [isSeparator, Bool.or_eq_true, beq_iff_eq] at hc
    rcases hc with (((rfl | rfl) | rfl) | rfl) | rfl <;> decide
  obtain ⟨hw, hq, hd, he, hg⟩ := hword
  have hrestart : p.restart c = (nothing.step c).map fun next => (next.1, ts ++ next.2) := by
    simp only [restart, hp, step, Option.bind_eq_bind, Option.bind_some, Option.pure_def]
    cases start c <;> rfl
  cases p with
  | nothing =>
    cases hp
    cases nothing.step c <;> rfl
  | word text => simpa only [step, hw, Bool.false_eq_true, if_false] using hrestart
  | quoted name => cases hp
  | quote name => simpa [step, hq] using hrestart
  | placeholder digits => simpa only [step, hd, Bool.false_eq_true, if_false] using hrestart
  | angle first => simpa [step, he, hg] using hrestart

theorem tokens_append {p : Pending} {xs ys : List Char} {c : Char} {ts us : List Token}
    (hx : p.tokens xs = some ts) (hc : isSeparator c = true)
    (hy : nothing.tokens (c :: ys) = some us) : p.tokens (xs ++ c :: ys) = some (ts ++ us) := by
  induction xs generalizing p ts with
  | nil =>
    simp only [tokens, Option.bind_eq_bind, Option.bind_eq_some_iff] at hy
    obtain ⟨⟨q, vs⟩, hstep, hrest⟩ := hy
    obtain ⟨ws, hws, rfl⟩ : ∃ ws, q.tokens ys = some ws ∧ vs ++ ws = us := by
      simpa [Option.bind_eq_some_iff] using hrest
    rw [tokens] at hx
    simp [tokens, step_separator hx hc, hstep, hws]
  | cons x rest ih =>
    simp only [tokens, Option.bind_eq_bind, Option.bind_eq_some_iff] at hx
    obtain ⟨⟨q, vs⟩, hstep, hrest⟩ := hx
    obtain ⟨ws, hws, rfl⟩ : ∃ ws, q.tokens rest = some ws ∧ vs ++ ws = ts := by
      simpa [Option.bind_eq_some_iff] using hrest
    simp [tokens, hstep, ih hws]

theorem tokens_feed {p q : Pending} {xs ys : List Char} {ts us : List Token}
    (hx : p.feed xs = some (q, ts)) (hy : q.tokens ys = some us) :
    p.tokens (xs ++ ys) = some (ts ++ us) := by
  induction xs generalizing p ts with
  | nil => cases hx; exact hy
  | cons x rest ih =>
    simp only [feed, Option.bind_eq_bind, Option.bind_eq_some_iff] at hx
    obtain ⟨⟨r, vs⟩, hstep, ⟨r', ws⟩, hfeed, hend⟩ := hx
    cases hend
    simp [tokens, hstep, ih hfeed]

theorem feed_append {p q r : Pending} {xs ys : List Char} {ts us : List Token}
    (hx : p.feed xs = some (q, ts)) (hy : q.feed ys = some (r, us)) :
    p.feed (xs ++ ys) = some (r, ts ++ us) := by
  induction xs generalizing p ts with
  | nil => cases hx; exact hy
  | cons x rest ih =>
    simp only [feed, Option.bind_eq_bind, Option.bind_eq_some_iff] at hx
    obtain ⟨⟨q', vs⟩, hstep, ⟨r', ws⟩, hfeed, hend⟩ := hx
    cases hend
    simp [feed, hstep, ih hfeed]

theorem feed_separator {p q : Pending} {xs ys : List Char} {c : Char} {ts us : List Token}
    (hx : p.tokens xs = some ts) (hc : isSeparator c = true)
    (hy : nothing.feed (c :: ys) = some (q, us)) :
    p.feed (xs ++ c :: ys) = some (q, ts ++ us) := by
  induction xs generalizing p ts with
  | nil =>
    simp only [feed, Option.bind_eq_bind, Option.bind_eq_some_iff] at hy
    obtain ⟨⟨q', vs⟩, hstep, ⟨r', ws⟩, hfeed, hend⟩ := hy
    cases hend
    rw [tokens] at hx
    simp [feed, step_separator hx hc, hstep, hfeed]
  | cons x rest ih =>
    simp only [tokens, Option.bind_eq_bind, Option.bind_eq_some_iff] at hx
    obtain ⟨⟨q', vs⟩, hstep, hrest⟩ := hx
    obtain ⟨ws, hws, rfl⟩ : ∃ ws, q'.tokens rest = some ws ∧ vs ++ ws = ts := by
      simpa [Option.bind_eq_some_iff] using hrest
    simp [feed, hstep, ih hws]

theorem tokens_word (text : List Char) {rest : List Char} (h : ∀ c ∈ rest, isWordChar c = true) :
    (word text).tokens rest = some [.word (String.ofList (text ++ rest))] := by
  induction rest generalizing text with
  | nil => simp [tokens, finish]
  | cons c rest ih =>
    have hc := h c List.mem_cons_self
    simp [tokens, step, hc, ih (text ++ [c]) fun d hd => h d (List.mem_cons_of_mem c hd)]

theorem tokens_placeholder (digits : List Char) {rest : List Char}
    (h : ∀ c ∈ rest, c.isDigit = true) (hne : digits ++ rest ≠ []) :
    (placeholder digits).tokens rest =
      some [.placeholder (Nat.ofDigitChars 10 (digits ++ rest) 0)] := by
  induction rest generalizing digits with
  | nil =>
    have hdigits : digits.isEmpty = false := by simpa using hne
    simp [tokens, finish, hdigits]
  | cons c rest ih =>
    have hc := h c List.mem_cons_self
    have hrest := ih (digits ++ [c]) (fun d hd => h d (List.mem_cons_of_mem c hd))
      (by simp)
    simp [tokens, step, hc, hrest]

/-- Whatever stands in quotes is one name. -/
theorem tokens_quoted (read name : List Char) :
    (quoted read).tokens (name.flatMap (fun c => if c = '"' then ['"', '"'] else [c]) ++ ['"']) =
      some [.quoted (String.ofList (read ++ name))] := by
  induction name generalizing read with
  | nil => simp [tokens, step, finish]
  | cons c rest ih =>
    rw [List.flatMap_cons]
    by_cases hc : c = '"'
    · have h := ih (read ++ ['"'])
      simp [hc, tokens, step, h]
    · have h := ih (read ++ [c])
      simp [hc, tokens, step, h]

/-- A NUL in what has been read of a name. -/
def HoldsNul : Pending → Prop
  | quoted name => '\x00' ∈ name
  | quote name => '\x00' ∈ name
  | _ => False

theorem restart_nul (p : Pending) : p.restart '\x00' = none := by
  have hstart : start '\x00' = none := rfl
  simp only [restart, hstart, Option.bind_eq_bind, Option.bind_none]
  cases p.finish <;> rfl

theorem step_nul {p q : Pending} {c : Char} {ts : List Token} (h : p.step c = some (q, ts))
    (hnul : p.HoldsNul ∨ c = '\x00') :
    q.HoldsNul ∨ ∃ name, .quoted name ∈ ts ∧ '\x00' ∈ name.toList := by
  have hrestart : p.restart c = some (q, ts) → p.HoldsNul ∧ c ≠ '\x00' := by
    intro h
    have hc : c ≠ '\x00' := by
      rintro rfl
      rw [restart_nul] at h
      cases h
    exact ⟨hnul.resolve_right hc, hc⟩
  cases p with
  | nothing =>
    rcases hnul with hnul | rfl
    · cases hnul
    · cases h
  | word text =>
    rw [step] at h
    split at h
    next hword =>
      rcases hnul with hnul | rfl
      · cases hnul
      · cases hword
    next => exact absurd (hrestart h).1 id
  | quoted name =>
    cases h
    left
    split
    next hquote =>
      rcases hnul with hnul | rfl
      · exact hnul
      · cases hquote
    next =>
      rcases hnul with hnul | rfl
      · exact List.mem_append_left _ hnul
      · exact List.mem_append_right _ List.mem_cons_self
  | quote name =>
    rw [step] at h
    split at h
    next hquote =>
      cases h
      rcases hnul with hnul | rfl
      · exact .inl (List.mem_append_left _ hnul)
      · cases hquote
    next =>
      have hname := (hrestart h).1
      simp only [restart, finish, Option.bind_eq_bind, Option.bind_some] at h
      obtain ⟨next, -, h⟩ := Option.bind_eq_some_iff.mp h
      cases h
      exact .inr ⟨String.ofList name, by simp, by simpa [HoldsNul] using hname⟩
  | placeholder digits =>
    rw [step] at h
    split at h
    next hdigit =>
      rcases hnul with hnul | rfl
      · cases hnul
      · cases hdigit
    next => exact absurd (hrestart h).1 id
  | angle first =>
    rw [step] at h
    split at h
    next hc =>
      rcases hnul with hnul | rfl
      · cases hnul
      · simp at hc
    next => exact absurd (hrestart h).1 id

theorem tokens_nul {p : Pending} {cs : List Char} {ts : List Token} (h : p.tokens cs = some ts)
    (hnul : p.HoldsNul ∨ '\x00' ∈ cs) : ∃ name, .quoted name ∈ ts ∧ '\x00' ∈ name.toList := by
  induction cs generalizing p ts with
  | nil =>
    rcases hnul with hnul | hnul
    · cases p with
      | quote name =>
        cases h
        exact ⟨String.ofList name, List.mem_cons_self, by simpa [HoldsNul] using hnul⟩
      | quoted name => cases h
      | _ => cases hnul
    · cases hnul
  | cons c rest ih =>
    obtain ⟨⟨q, us⟩, hstep, h⟩ := Option.bind_eq_some_iff.mp h
    obtain ⟨vs, hrest, h⟩ := Option.bind_eq_some_iff.mp h
    cases h
    have later : (q.HoldsNul ∨ '\x00' ∈ rest) ∨
        ∃ name, .quoted name ∈ us ∧ '\x00' ∈ name.toList := by
      rcases hnul with hnul | hnul
      · exact (step_nul hstep (.inl hnul)).imp_left .inl
      · rcases List.mem_cons.mp hnul with hc | hnul
        · exact (step_nul hstep (.inr hc.symm)).imp_left .inl
        · exact .inl (.inr hnul)
    rcases later with later | ⟨name, hname, hmem⟩
    · obtain ⟨name, hname, hmem⟩ := ih hrest later
      exact ⟨name, List.mem_append_right _ hname, hmem⟩
    · exact ⟨name, List.mem_append_left _ hname, hmem⟩

end Pending

/-- A NUL in a text that can be read stands in a quoted name. -/
theorem nul_quoted {text : String} {ts : List Token} (h : tokens text = some ts)
    (hnul : '\x00' ∈ text.toList) : ∃ name, .quoted name ∈ ts ∧ '\x00' ∈ name.toList :=
  Pending.tokens_nul h (.inr hnul)

/-- The text is read as these tokens. -/
def Reads (text : String) (ts : List Token) : Prop := tokens text = some ts

/-- The text is read as these tokens, and anything may follow it. -/
def Opens (text : String) (ts : List Token) : Prop :=
  Pending.nothing.feed text.toList = some (.nothing, ts)

instance (text : String) (ts : List Token) : Decidable (Reads text ts) :=
  inferInstanceAs (Decidable (tokens text = some ts))

instance (text : String) (ts : List Token) : Decidable (Opens text ts) :=
  inferInstanceAs (Decidable (Pending.nothing.feed text.toList = some (.nothing, ts)))

/-- The text begins with a separator. -/
def Separated (text : String) : Prop := ∃ c rest, text.toList = c :: rest ∧ isSeparator c = true

variable {a b : String} {ts us : List Token}

theorem Opens.reads (ha : Opens a ts) (hb : Reads b us) : Reads (a ++ b) (ts ++ us) := by
  rw [Reads, tokens, String.toList_append]
  exact Pending.tokens_feed ha hb

theorem Opens.opens (ha : Opens a ts) (hb : Opens b us) : Opens (a ++ b) (ts ++ us) := by
  rw [Opens, String.toList_append]
  exact Pending.feed_append ha hb

theorem Reads.reads (ha : Reads a ts) (hs : Separated b) (hb : Reads b us) :
    Reads (a ++ b) (ts ++ us) := by
  obtain ⟨c, rest, hlist, hc⟩ := hs
  rw [Reads, tokens, hlist] at hb
  rw [Reads, tokens, String.toList_append, hlist]
  exact Pending.tokens_append ha hc hb

theorem Reads.opens (ha : Reads a ts) (hs : Separated b) (hb : Opens b us) :
    Opens (a ++ b) (ts ++ us) := by
  obtain ⟨c, rest, hlist, hc⟩ := hs
  rw [Opens, hlist] at hb
  rw [Opens, String.toList_append, hlist]
  exact Pending.feed_separator ha hc hb

theorem Separated.append (ha : Separated a) : Separated (a ++ b) := by
  obtain ⟨c, rest, hlist, hc⟩ := ha
  exact ⟨c, rest ++ b.toList, by simp [hlist], hc⟩

theorem reads_word {c : Char} {rest : List Char} (hc : c.isAlphanum = true)
    (hrest : ∀ d ∈ rest, isWordChar d = true) :
    Reads (String.ofList (c :: rest)) [.word (String.ofList (c :: rest))] := by
  have hstart : Pending.start c = some (.word [c], []) := by
    have hb : isBlank c = false ∧ c ≠ '"' ∧ c ≠ '?' ∧ c ≠ '<' ∧ c ≠ '>' ∧
        isPunctuation c = false := by
      refine ⟨?_, ?_, ?_, ?_, ?_, ?_⟩
      · refine Bool.eq_false_iff.mpr fun h => ?_
        simp only [isBlank, Bool.or_eq_true, beq_iff_eq] at h
        rcases h with (((rfl | rfl) | rfl) | rfl) | rfl <;> exact absurd hc (by decide)
      · rintro rfl; exact absurd hc (by decide)
      · rintro rfl; exact absurd hc (by decide)
      · rintro rfl; exact absurd hc (by decide)
      · rintro rfl; exact absurd hc (by decide)
      · refine Bool.eq_false_iff.mpr fun h => ?_
        simp only [isPunctuation, Bool.or_eq_true, beq_iff_eq] at h
        rcases h with ((((rfl | rfl) | rfl) | rfl) | rfl) | rfl <;> exact absurd hc (by decide)
    have hw : isWordChar c = true := by simp [isWordChar, hc]
    simp [Pending.start, hb, hw]
  have hword := Pending.tokens_word [c] hrest
  simp only [Reads, tokens, String.toList_ofList, Pending.tokens, Pending.step, hstart,
    Option.bind_eq_bind, Option.bind_some, hword, Option.pure_def, List.nil_append,
    List.singleton_append]

theorem reads_quoteIdentifier (name : String) : Reads (quoteIdentifier name) [.quoted name] := by
  have h := Pending.tokens_quoted [] name.toList
  have hstart : Pending.start '"' = some (.quoted [], []) := rfl
  simp only [List.nil_append, String.ofList_toList] at h
  simp only [Reads, tokens, quoteIdentifier, quoteChars, String.toList_ofList, List.cons_append,
    Pending.tokens, Pending.step, hstart, Option.bind_eq_bind, Option.bind_some, h,
    Option.pure_def, List.nil_append]

theorem placeholder_toList (n : Nat) :
    (Sql.placeholder n).toList = '?' :: Nat.toDigits 10 n := by
  simp [Sql.placeholder, toString, Nat.toList_repr]

theorem reads_placeholder (n : Nat) : Reads (Sql.placeholder n) [.placeholder n] := by
  have hdigits : ∀ c ∈ Nat.toDigits 10 n, c.isDigit = true := fun c hc =>
    Nat.isDigit_of_mem_toDigits (by decide) (by decide) hc
  have h := Pending.tokens_placeholder [] hdigits Nat.toDigits_ne_nil
  have hstart : Pending.start '?' = some (.placeholder [], []) := rfl
  simp only [List.nil_append, Nat.ofDigitChars_ten_toDigits] at h
  simp only [Reads, tokens, placeholder_toList, Pending.tokens, Pending.step, hstart,
    Option.bind_eq_bind, Option.bind_some, h, Option.pure_def, List.nil_append]

end Token

end FieldSearch.Sql
