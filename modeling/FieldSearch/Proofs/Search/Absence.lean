import FieldSearch.Proofs.Json.Member
import FieldSearch.Proofs.Schema.Acceptance
import FieldSearch.Search.Compile

/-!
# Null members of a request

A null member of a request, of its query or of its paginator is the same as a missing one, but for
the ordering and the page size, which have two spellings: there the first spelling counts wherever
it is present, and a null under it hides what stands under the other.
-/

namespace FieldSearch

open Json

/-! ### Pages -/

namespace Page

/-- A null is as little a positive number as nothing is. -/
theorem positive?_nonNull (field : PageField) (value : Option Json) :
    positive? field (value.filter (!·.isNull)) = positive? field value := by
  cases value with
  | none => rfl
  | some v => cases v <;> rfl

variable {maxItems : Nat}

theorem ofRequest_congr {members members' : List (String × Json)}
    (number : positive? .page ((object members').get? "page") =
      positive? .page ((object members).get? "page"))
    (size : positive? .itemsPerPage (itemsMember? (object members')) =
      positive? .itemsPerPage (itemsMember? (object members))) :
    ofRequest maxItems (object members') = ofRequest maxItems (object members) := by
  rw [ofRequest, ofRequest, number, size]

theorem itemsMember?_eq (paginator : Json) :
    itemsMember? paginator = paginator.spelled? "itemsPerPage" "items_per_page" := rfl

theorem ofRequest_withoutNulls {paginator : Json} (keyed : paginator.Keyed)
    (h : paginator.HidesNothing "itemsPerPage" "items_per_page") :
    ofRequest maxItems paginator.withoutNulls = ofRequest maxItems paginator := by
  cases paginator with
  | object members =>
    refine ofRequest_congr ?_ ?_
    · rw [← withoutNulls, get?_withoutNulls keyed, getNonNull?, positive?_nonNull]
    · rw [← withoutNulls, itemsMember?_eq, spelled?_withoutNulls keyed h, positive?_nonNull,
        itemsMember?_eq]
  | _ => rfl

theorem ofRequest_settle (paginator : Json) :
    ofRequest maxItems (paginator.settle "itemsPerPage" "items_per_page") =
      ofRequest maxItems paginator := by
  cases paginator with
  | object members =>
    have number : ((object members).settle "itemsPerPage" "items_per_page").get? "page" =
        (object members).get? "page" := settle_get?_ne (by decide) _
    have size : ((object members).settle "itemsPerPage" "items_per_page").spelled? "itemsPerPage"
        "items_per_page" = (object members).spelled? "itemsPerPage" "items_per_page" :=
      spelled?_settle (by decide) _
    rw [settle] at number size ⊢
    split
    next present =>
      rw [if_pos present] at number size
      exact ofRequest_congr (congrArg _ number) (congrArg _ size)
    next => rfl
  | _ => rfl

end Page

/-! ### Requests -/

namespace Request

/-- Change the query and the paginator. -/
def mapParts (query paginator : Json → Json) (request : Json) : Json :=
  (request.mapMember "query" query).mapMember "paginator" paginator

/-- Delete the null members of a request, of its query and of its paginator. -/
def withoutNulls (request : Json) : Json :=
  (mapParts Json.withoutNulls Json.withoutNulls request).withoutNulls

/-- Delete the other spelling of the ordering, and of the page size, where the first is present. -/
def settled (request : Json) : Json :=
  mapParts (settle "orderBy" "order_by") (settle "itemsPerPage" "items_per_page") request

/-- No key stands twice where a request is read. -/
structure Keyed (request : Json) : Prop where
  members : request.Keyed
  query : (request.member "query").Keyed
  paginator : (request.member "paginator").Keyed

/-- No null ordering stands before a value under the other spelling, and no null page size. -/
structure HidesNothing (request : Json) : Prop where
  order : (request.member "query").HidesNothing "orderBy" "order_by"
  size : (request.member "paginator").HidesNothing "itemsPerPage" "items_per_page"

/-- Requests are read in canonical form, where no key stands twice. -/
theorem keyed_canonical (j : Json) : Keyed j.canonical := by
  have part (key : String) : (j.canonical.member key).Keyed := by
    obtain ⟨value, h⟩ := member_canonical key j
    exact h ▸ Json.keyed_canonical value
  exact ⟨Json.keyed_canonical j, part "query", part "paginator"⟩

section Parts

variable {f g : Json → Json}

theorem query_mapParts (null : f .null = .null) (request : Json) :
    (mapParts f g request).member "query" = f (request.member "query") := by
  rw [mapParts, member_mapMember_ne (by decide), member_mapMember null]

theorem paginator_mapParts (null : g .null = .null) (request : Json) :
    (mapParts f g request).member "paginator" = g (request.member "paginator") := by
  rw [mapParts, member_mapMember null, member_mapMember_ne (by decide)]

theorem keyed_mapParts {request : Json} (keyed : request.Keyed) : (mapParts f g request).Keyed :=
  (keyed.mapMember _ _).mapMember _ _

end Parts

variable {request : Json}

theorem query_withoutNulls (keyed : request.Keyed) :
    (withoutNulls request).member "query" = (request.member "query").withoutNulls := by
  rw [withoutNulls, member_withoutNulls (keyed_mapParts keyed), query_mapParts rfl]

theorem paginator_withoutNulls (keyed : request.Keyed) :
    (withoutNulls request).member "paginator" = (request.member "paginator").withoutNulls := by
  rw [withoutNulls, member_withoutNulls (keyed_mapParts keyed), paginator_mapParts rfl]

theorem query_settled (request : Json) :
    (settled request).member "query" = (request.member "query").settle "orderBy" "order_by" :=
  query_mapParts rfl request

theorem paginator_settled (request : Json) : (settled request).member "paginator" =
    (request.member "paginator").settle "itemsPerPage" "items_per_page" :=
  paginator_mapParts rfl request

theorem Keyed.settled (keyed : Keyed request) : Keyed (settled request) where
  members := keyed_mapParts keyed.members
  query := query_settled request ▸ keyed.query.settle _ _
  paginator := paginator_settled request ▸ keyed.paginator.settle _ _

theorem settled_hidesNothing (request : Json) : HidesNothing (settled request) where
  order := query_settled request ▸ settle_hidesNothing (by decide) _
  size := paginator_settled request ▸ settle_hidesNothing (by decide) _

end Request

/-! ### Answers -/

namespace Compiler

variable (c : Compiler) (name : String) {request request' : Json}

/-- All that a request is asked for. -/
theorem compileRequest_congr
    (filter : (request'.member "query").getNonNull? "filter" =
      (request.member "query").getNonNull? "filter")
    (order : orderMember (request'.member "query") = orderMember (request.member "query"))
    (page : ∀ maxItems, Page.ofRequest maxItems (request'.member "paginator") =
      Page.ofRequest maxItems (request.member "paginator")) :
    c.compileRequest name request' = c.compileRequest name request := by
  simp only [member] at filter order page
  simp only [compileRequest, filter, order, page]

theorem orderMember_eq (query : Json) :
    orderMember query = (query.spelled? "orderBy" "order_by").getD .null := rfl

theorem compileRequest_withoutNulls (keyed : Request.Keyed request)
    (h : Request.HidesNothing request) :
    c.compileRequest name (Request.withoutNulls request) = c.compileRequest name request := by
  apply compileRequest_congr
  · rw [Request.query_withoutNulls keyed.members, getNonNull?_withoutNulls keyed.query]
  · rw [Request.query_withoutNulls keyed.members, orderMember_eq,
      spelled?_withoutNulls keyed.query h.order, getD_nonNull, orderMember_eq]
  · intro maxItems
    rw [Request.paginator_withoutNulls keyed.members,
      Page.ofRequest_withoutNulls keyed.paginator h.size]

theorem compileRequest_settled :
    c.compileRequest name (Request.settled request) = c.compileRequest name request := by
  apply compileRequest_congr
  · rw [Request.query_settled, getNonNull?, settle_get?_ne (by decide), getNonNull?]
  · rw [Request.query_settled, orderMember_eq, spelled?_settle (by decide), orderMember_eq]
  · intro maxItems
    rw [Request.paginator_settled, Page.ofRequest_settle]

/-- A null member is the same as a missing one, unless it hides the other spelling of the ordering
or of the page size; once what is hidden has been deleted, it is the same in every request. -/
theorem null_members_are_missing (keyed : Request.Keyed request) :
    (Request.HidesNothing request →
      c.compileRequest name (Request.withoutNulls request) = c.compileRequest name request) ∧
    c.compileRequest name (Request.withoutNulls (Request.settled request)) =
      c.compileRequest name request :=
  ⟨c.compileRequest_withoutNulls name keyed,
    (c.compileRequest_withoutNulls name keyed.settled (Request.settled_hidesNothing request)).trans
      (c.compileRequest_settled name)⟩

namespace Trial

def library : Compiler := ⟨Registry.Sample.library, {}⟩

def byNumber : Json := .array [.string "Author", .string "id", .string "=", .int 3]

def byName : Json := .array [.string "Author", .string "name"]

/-- Nulls at all levels, one of them beside the other spelling of an ordering. -/
def nulls : Json :=
  .object [("paginator", .null), ("query", .object [("filter", byNumber), ("limit", .null),
    ("orderBy", byName), ("order_by", .null)]), ("user", .null)]

/-- A null ordering before one under the other spelling. -/
def hiddenOrder : Json :=
  .object [("query", .object [("filter", byNumber), ("orderBy", .null), ("order_by", byName)])]

/-- A null page size before one under the other spelling. -/
def hiddenSize : Json :=
  .object [("paginator", .object [("itemsPerPage", .null), ("items_per_page", .int 5),
    ("page", .int 1)]), ("query", .object [("filter", byNumber)])]

def plan (terms : List OrderTerm) (page : Option Page) : Plan where
  root := "Author"
  predicate := .compare ⟨.root, "id"⟩ .eq (.integer 3)
  joins := []
  orderBy := terms
  page := page

def number : OrderTerm := ⟨⟨.root, "id"⟩, .asc, false⟩

def nameFirst : List OrderTerm := [⟨⟨.root, "name"⟩, .asc, true⟩, number]

end Trial

theorem nulls_are_missing :
    Request.Keyed Trial.nulls ∧ Request.HidesNothing Trial.nulls ∧
    Trial.library.compileRequest "Author" Trial.nulls = .ok (Trial.plan Trial.nameFirst none) ∧
    Trial.library.compileRequest "Author" (.object [("query",
      .object [("filter", Trial.byNumber), ("orderBy", Trial.byName)])]) =
        .ok (Trial.plan Trial.nameFirst none) ∧
    Request.Keyed Trial.hiddenOrder ∧
    Trial.library.compileRequest "Author"
      (.object [("query", .object [("filter", Trial.byNumber)])]) =
        Trial.library.compileRequest "Author" Trial.hiddenOrder := by
  have keyed : Request.Keyed Trial.nulls := Request.keyed_canonical Trial.nulls
  have hides : Request.HidesNothing Trial.nulls := ⟨nofun, nofun⟩
  have answer : Trial.library.compileRequest "Author" Trial.nulls =
      .ok (Trial.plan Trial.nameFirst none) := rfl
  have same := (null_members_are_missing Trial.library "Author" keyed).1 hides
  have keyed' : Request.Keyed Trial.hiddenOrder := Request.keyed_canonical Trial.hiddenOrder
  exact ⟨keyed, hides, answer, same.trans answer, keyed',
    (null_members_are_missing Trial.library "Author" keyed').2⟩

/-- What a null hides comes to light where the null is deleted. -/
theorem null_hides_other_spelling :
    Registry.build [Registry.Sample.book, Registry.Sample.author] [Registry.Sample.writer] =
      .ok Trial.library.registry ∧
    Request.Keyed Trial.hiddenOrder ∧
    Trial.library.compileRequest "Author" Trial.hiddenOrder =
      .ok (Trial.plan [Trial.number] none) ∧
    Trial.library.compileRequest "Author" (Request.withoutNulls Trial.hiddenOrder) =
      .ok (Trial.plan Trial.nameFirst none) ∧
    Request.Keyed Trial.hiddenSize ∧
    Trial.library.compileRequest "Author" Trial.hiddenSize =
      .error (.invalidPagination .itemsPerPage .notPositive) ∧
    Trial.library.compileRequest "Author" (Request.withoutNulls Trial.hiddenSize) =
      .ok (Trial.plan [Trial.number] (some ⟨1, 5⟩)) ∧
    ¬ ∀ request, Request.Keyed request →
      Trial.library.compileRequest "Author" (Request.withoutNulls request) =
        Trial.library.compileRequest "Author" request := by
  have keyed : Request.Keyed Trial.hiddenSize := Request.keyed_canonical Trial.hiddenSize
  have refused : Trial.library.compileRequest "Author" Trial.hiddenSize =
      .error (.invalidPagination .itemsPerPage .notPositive) := rfl
  have accepted : Trial.library.compileRequest "Author" (Request.withoutNulls Trial.hiddenSize) =
      .ok (Trial.plan [Trial.number] (some ⟨1, 5⟩)) := rfl
  refine ⟨rfl, Request.keyed_canonical Trial.hiddenOrder, rfl, rfl, keyed, refused, accepted, ?_⟩
  intro h
  have same := h _ keyed
  rw [refused, accepted] at same
  cases same

end Compiler

end FieldSearch
