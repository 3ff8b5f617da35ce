import FieldSearch.Json.Record
import FieldSearch.Search.Error

/-!
# Pages

A page of a result by number and size. The rows before it are counted in 64 bits and stop at the
largest count; page 0, which a plan may hold, reads as the first.
-/

namespace FieldSearch

structure Page where
  number : UInt64
  size : UInt64
  deriving DecidableEq

namespace Page

def largestCount : Nat := UInt64.size - 1

/-- The rows to skip. -/
def offset (p : Page) : Nat := min ((p.number.toNat - 1) * p.size.toNat) largestCount

/-- The rows to return. -/
def limit (p : Page) : Nat := p.size.toNat

def positive? (field : PageField) (value : Option Json) : Except SearchError UInt64 :=
  match value >>= Json.uint64? with
  | some n => if 1 ≤ n then .ok n else .error (.invalidPagination field .notPositive)
  | none => .error (.invalidPagination field .notPositive)

/-- The items per page of a request, which has two spellings for them. -/
def itemsMember? (request : Json) : Option Json :=
  (request.get? "itemsPerPage").or (request.get? "items_per_page")

/-- Read the page of a request, `null` being none. -/
def ofRequest (maxItems : Nat) (request : Json) : Except SearchError (Option Page) :=
  match request with
  | .null => .ok none
  | .object _ => do
    let number ← positive? .page (request.get? "page")
    let size ← positive? .itemsPerPage (itemsMember? request)
    if maxItems < size.toNat then throw (.invalidPagination .itemsPerPage (.tooLarge maxItems))
    pure (some ⟨number, size⟩)
  | _ => .error (.invalidPagination .paginator .notObject)

def toJson (p : Page) : Json :=
  .object [("page", Json.ofNat p.number.toNat), ("itemsPerPage", Json.ofNat p.size.toNat)]

def ofJson? (j : Json) : Option Page :=
  match j.fields? ["page", "itemsPerPage"] with
  | some [number, size] => do
    pure ⟨← Json.required? Json.uint64? number, ← Json.required? Json.uint64? size⟩
  | _ => none

end Page

end FieldSearch
