import Replication.ParseInt
import Mathlib

namespace Replication

/-!
# Searching the index

`SearchService.searchRecords` behind `GET /api/search`, and the pages that the
data browser asks for.  Elasticsearch is a parameter: it answers a request
within its result window with that part of the matching documents, in the order
of the sort, which ends with the document id and so is total; it counts matches
up to the same bound.
-/

/-- The parameters of a URL, in order. -/
abbrev UrlQuery := List (String × Text)

namespace UrlQuery

/-- `buildQuery`: undefined and empty values are left out. -/
def build (params : List (String × Option Text)) : UrlQuery :=
  params.filterMap fun (name, value) =>
    (value.filter (· ≠ [])).map fun text => (name, text)

/-- `searchParams.get(name)`, and `undefined` for an empty text. -/
def get (query : UrlQuery) (name : String) : Option Text :=
  ((query.find? fun param => param.1 = name).map Prod.snd).filter (· ≠ [])

end UrlQuery

/-- What `searchRecords` is asked for; a number is absent or `NaN` as `none`. -/
structure SearchParams where
  query : Option Text
  tier : Option Text
  page : Option WholeNumber
  limit : Option WholeNumber
  deriving DecidableEq, Repr

/-- `GET /api/search`. -/
def searchRoute (query : UrlQuery) : SearchParams where
  query := (query.get "q").or (query.get "query")
  tier := query.get "tier"
  page :=
    match query.get "page" with
    | some text => (parseInt text).map (WholeNumber.atLeast 1)
    | none => some (.finite 1)
  limit :=
    match query.get "limit" with
    | some text =>
        (parseInt text).map fun limit => .finite (limit.within 1 100)
    | none => some (.finite 25)

/-- The query of a search. -/
inductive EsQuery where
  | matchAll
  /--
  `must` is a `multi_match`, or else `match_all`; `filter` a term on
  `account_tier`.
  -/
  | bool (must filter : Option Text)
  deriving DecidableEq, Repr

/-- A search request; the sort is always the same. -/
structure SearchRequest where
  from_ : WholeNumber
  size : Int
  query : EsQuery
  deriving DecidableEq, Repr

/-- What Elasticsearch answers; a hit may come without its source. -/
structure SearchAnswer (Document : Type) where
  total : Option Nat
  hits : List (Option Document)

/-- What `searchRecords` returns. -/
structure SearchResult (Document : Type) where
  total : Nat
  page : WholeNumber
  limit : Int
  documents : List Document
  error : Option String
  deriving DecidableEq, Repr

namespace SearchService

/-- Elasticsearch, which may reject a request. -/
abbrev Search (Document : Type) :=
  SearchRequest → Except String (SearchAnswer Document)

/-- The query for a text and a tier. -/
def esQuery (query tier : Option Text) : EsQuery :=
  let must := (query.map Text.trim).filter (· ≠ [])
  let filter := tier.filter fun tier => tier ≠ [] ∧ tier ≠ "ALL".toList
  if must.isSome ∨ filter.isSome then .bool must filter else .matchAll

/-- The page that is searched. -/
def pageOf (params : SearchParams) : WholeNumber :=
  (orElse params.page 1).atLeast 1

/-- How many documents it has. -/
def limitOf (params : SearchParams) : Int :=
  (orElse params.limit 25).within 1 100

/-- The request for those parameters. -/
def request (params : SearchParams) : SearchRequest where
  from_ := ((pageOf params).sub 1).scale (limitOf params)
  size := limitOf params
  query := esQuery params.query params.tier

variable {Document : Type}

/-- `searchRecords(params)`. -/
def searchRecords
    (search : Search Document)
    (params : SearchParams) : SearchResult Document :=
  match search (request params) with
  | .ok answer =>
      { total := answer.total.getD 0
        page := pageOf params
        limit := limitOf params
        documents := answer.hits.filterMap id
        error := none }
  | .error message =>
      { total := 0
        page := pageOf params
        limit := limitOf params
        documents := []
        error := some message }

/-- `index.max_result_window`, and the bound of `track_total_hits`. -/
def resultWindow : Nat := 10000

/-- The index holds these documents for each query, and nothing is written. -/
structure Serves
    (search : Search Document)
    (matching : EsQuery → List Document) : Prop where
  within :
    ∀ (start size : Nat) query,
      start + size ≤ resultWindow →
      search ⟨.finite start, size, query⟩ =
        .ok
          { total := some (min resultWindow (matching query).length)
            hits := (((matching query).drop start).take size).map some }

end SearchService

namespace DataBrowser

/-- `PAGE_SIZE`. -/
def pageSize : Nat := 25

/-- What the data browser shows: a query, a tier and a page. -/
structure View where
  query : Text
  tier : Text
  page : Nat
  deriving DecidableEq, Repr

/-- The URL parameters of `api.searchRecords` for that view. -/
def View.params (view : View) : UrlQuery :=
  .build
    [("q", some view.query),
      ("tier", if view.tier = "ALL".toList then none else some view.tier),
      ("page", some (JsNumber.natText view.page)),
      ("limit", some (JsNumber.natText pageSize))]

/-- `Math.max(1, Math.ceil(total / PAGE_SIZE))`. -/
def totalPages (total : Nat) : Nat :=
  max 1 ((total + pageSize - 1) / pageSize)

/-- The number of the first row shown. -/
def firstRow (total page : Nat) : Nat :=
  if total = 0 then 0 else (page - 1) * pageSize + 1

/-- The number of the last row shown. -/
def lastRow (total page : Nat) : Nat :=
  min total (page * pageSize)

end DataBrowser

/-! ### What is requested -/

namespace SearchService

/-- The parts of a whole number of pages, or what a double makes of it. -/
structure WholePages (request : SearchRequest) : Prop where
  positive : 1 ≤ request.size
  atMost : request.size ≤ 100
  nonneg : request.from_.Nonneg
  /-- `Number.MAX_SAFE_INTEGER` -/
  aligned :
    ∀ start,
      request.from_ = .finite start →
      start < 9007199254740991 →
      request.size ∣ start

/-- Every request is for one to a hundred documents, from a whole page on. -/
theorem request_wholePages (params : SearchParams) :
    WholePages (request params) := by
  obtain ⟨positive, atMost⟩ :=
    WholeNumber.within_bounds (orElse params.limit 25)
      (by decide : (1 : Int) ≤ 100)
  have before : ((pageOf params).sub 1).Nonneg :=
    WholeNumber.sub_atLeast_nonneg _ 1
  have from_ :
      (request params).from_ =
        ((pageOf params).sub 1).scale (limitOf params) := rfl
  cases pages : (pageOf params).sub 1 with
  | negInfinity =>
      rw [pages] at before
      exact absurd before id
  | finite number =>
      rw [pages] at before from_
      have product : 0 ≤ number * limitOf params :=
        Int.mul_nonneg before (Int.le_of_lt positive)
      refine ⟨positive, atMost, ?_, ?_⟩
      · rw [from_]
        exact WholeNumber.ofInt_nonneg product
      · intro start isStart safe
        rw [WholeNumber.eq_of_ofInt product (from_.symm.trans isStart) safe]
        exact Dvd.intro_left number rfl
  | infinity =>
      rw [pages] at from_
      refine ⟨positive, atMost, from_ ▸ trivial, ?_⟩
      intro start isStart
      cases from_.symm.trans isStart

end SearchService

section Views

open SearchService DataBrowser

variable {view : View}

/-- The first parameter, or one of the others. -/
theorem UrlQuery.get_cons
    (own name : String)
    (text : Text)
    (rest : UrlQuery) :
    UrlQuery.get ((own, text) :: rest) name =
      if own = name then
        (some text).filter (· ≠ [])
      else
        UrlQuery.get rest name := by
  unfold UrlQuery.get
  by_cases same : own = name
  · rw [if_pos same, List.find?_cons_of_pos (by simpa using same)]
    rfl
  · rw [if_neg same, List.find?_cons_of_neg (by simpa using same)]

/-- A parameter is read back as it was given, unless it was empty. -/
theorem UrlQuery.get_build
    {params : List (String × Option Text)}
    (distinct : (params.map Prod.fst).Nodup)
    (name : String) :
    (UrlQuery.build params).get name =
      ((params.find? fun param => param.1 = name).bind Prod.snd).filter
        (· ≠ []) := by
  induction params with
  | nil =>
      rfl
  | cons param rest inductionHypothesis =>
      obtain ⟨own, value⟩ := param
      obtain ⟨new, restDistinct⟩ :=
        List.nodup_cons.mp (List.map_cons ▸ distinct)
      have tail := inductionHypothesis restDistinct
      have built :
          UrlQuery.build ((own, value) :: rest) =
            ((value.filter (· ≠ [])).map fun text => (own, text)).toList ++
              UrlQuery.build rest := by
        unfold UrlQuery.build
        cases given : (value.filter (· ≠ [])) with
        | none => exact List.filterMap_cons_none (by
            simp only [given, Option.map_none])
        | some text => exact List.filterMap_cons_some (by
            simp only [given, Option.map_some])
      rw [built]
      by_cases same : own = name
      · subst same
        simp only [List.find?_cons, decide_true, Option.bind_some]
        cases given : value.filter (· ≠ []) with
        | none =>
            have absent : rest.find? (fun param => param.1 = own) = none := by
              rw [List.find?_eq_none]
              intro other member isOwn
              refine new (List.mem_map.mpr ⟨other, member, ?_⟩)
              exact of_decide_eq_true isOwn
            rw [absent] at tail
            exact tail
        | some text =>
            obtain ⟨isText, nonempty⟩ := Option.filter_eq_some_iff.mp given
            refine (UrlQuery.get_cons own own text _).trans ?_
            rw [if_pos rfl]
            exact Option.filter_eq_some_iff.mpr ⟨rfl, nonempty⟩
      · simp only [List.find?_cons, same, decide_false]
        cases given : value.filter (· ≠ []) with
        | none => exact tail
        | some text =>
            refine (UrlQuery.get_cons own name text _).trans ?_
            rw [if_neg same]
            exact tail

/-- The text of a number is not empty. -/
theorem filter_natText (value : Nat) :
    (some (JsNumber.natText value)).filter (· ≠ []) =
      some (JsNumber.natText value) := by
  have digits : JsNumber.natText value ≠ [] := Nat.toDigits_ne_nil
  simp [Option.filter, digits]

/-- What the server reads of the parameters of a view. -/
theorem searchRoute_params
    (positive : 0 < view.page)
    (bits : view.page < 2 ^ 53) :
    searchRoute view.params =
      ⟨(some view.query).filter (· ≠ []),
        (if view.tier = "ALL".toList then none else some view.tier).filter
          (· ≠ []),
        some (.finite view.page), some (.finite pageSize)⟩ := by
  have read (name : String) :=
    @UrlQuery.get_build
      [("q", some view.query),
        ("tier", if view.tier = "ALL".toList then none else some view.tier),
        ("page", some (JsNumber.natText view.page)),
        ("limit", some (JsNumber.natText pageSize))]
      (by simp) name
  have page : view.params.get "page" = some (JsNumber.natText view.page) :=
    (read "page").trans (filter_natText view.page)
  have limit : view.params.get "limit" = some (JsNumber.natText pageSize) :=
    (read "limit").trans (filter_natText pageSize)
  have query :
      view.params.get "q" = (some view.query).filter (· ≠ []) :=
    read "q"
  have noOther : view.params.get "query" = none := read "query"
  have tier :
      view.params.get "tier" =
        (if view.tier = "ALL".toList then none else some view.tier).filter
          (· ≠ []) :=
    read "tier"
  have atLeastOne : max 1 (view.page : Int) = view.page :=
    max_eq_right (Int.ofNat_le.mpr positive)
  have isPage : WholeNumber.ofInt view.page = .finite view.page :=
    WholeNumber.ofInt_of_lt bits
  have isLimit : WholeNumber.ofInt pageSize = .finite pageSize :=
    WholeNumber.ofInt_of_lt (by decide)
  unfold searchRoute
  rw [page, limit, query, noOther, tier, Option.or_none]
  simp only [parseInt_natText, Option.map_some, isPage, isLimit,
    WholeNumber.atLeast, atLeastOne]
  rfl

/-- Whatever the page, the query is that for the text and the tier. -/
theorem esQuery_params (query tier : Text) :
    esQuery ((some query).filter (· ≠ []))
        ((if tier = "ALL".toList then none else some tier).filter
          (· ≠ [])) =
      esQuery (some query) (some tier) := by
  have must :
      (((some query).filter (· ≠ [])).map Text.trim).filter (· ≠ []) =
        ((some query).map Text.trim).filter (· ≠ []) := by
    by_cases empty : query = []
    · subst empty
      rfl
    · rw [Option.filter_eq_some_iff.mpr ⟨rfl, by simpa using empty⟩]
  have filter :
      ((if tier = "ALL".toList then none else some tier).filter
          (· ≠ [])).filter (fun tier => tier ≠ [] ∧ tier ≠ "ALL".toList) =
        (some tier).filter fun tier => tier ≠ [] ∧ tier ≠ "ALL".toList := by
    by_cases all : tier = "ALL".toList
    · subst all
      rfl
    · by_cases empty : tier = []
      · subst empty
        rfl
      · rw [if_neg all,
          Option.filter_eq_some_iff.mpr ⟨rfl, by simpa using empty⟩]
  unfold esQuery
  simp only [must, filter]

/-- The page of a view. -/
theorem pageOf_params
    (positive : 0 < view.page)
    (bits : view.page < 2 ^ 53) :
    pageOf (searchRoute view.params) = .finite view.page := by
  rw [searchRoute_params positive bits]
  unfold pageOf
  dsimp only
  rw [orElse_of_pos (Int.ofNat_lt.mpr positive)]
  exact congrArg WholeNumber.finite
    (max_eq_right (Int.ofNat_le.mpr positive))

/-- Its size. -/
theorem limitOf_params
    (positive : 0 < view.page)
    (bits : view.page < 2 ^ 53) :
    limitOf (searchRoute view.params) = pageSize := by
  rw [searchRoute_params positive bits]
  rfl

/-- The request of a view whose offset is a double. -/
theorem request_params
    (positive : 0 < view.page)
    (bits : view.page * pageSize < 2 ^ 53) :
    request (searchRoute view.params) =
      ⟨.finite ((view.page - 1) * pageSize : Nat), (pageSize : Nat),
        esQuery (some view.query) (some view.tier)⟩ := by
  have pageBits : view.page < 2 ^ 53 :=
    lt_of_le_of_lt (Nat.le_mul_of_pos_right _ (by decide)) bits
  have before : ((view.page : Int) - 1).natAbs < 2 ^ 53 := by omega
  have offset :
      ((view.page : Int) - 1) * pageSize =
        ((view.page - 1) * pageSize : Nat) := by
    rw [Nat.cast_mul, Nat.cast_sub positive, Nat.cast_one]
  have offsetBits : ((view.page - 1) * pageSize) < 2 ^ 53 :=
    lt_of_le_of_lt (Nat.mul_le_mul_right _ (Nat.sub_le _ _)) bits
  unfold request
  rw [pageOf_params positive pageBits, limitOf_params positive pageBits,
    searchRoute_params positive pageBits, esQuery_params]
  simp only [WholeNumber.sub, WholeNumber.ofInt_of_lt before,
    WholeNumber.scale, offset]
  rw [WholeNumber.ofInt_of_lt (by rwa [Int.natAbs_natCast])]

end Views

/-! ### The pages of the data browser -/

section Pages

open SearchService DataBrowser

variable {Document : Type}

/-- Pages side by side are the beginning of the list. -/
theorem flatMap_pages
    {Row : Type}
    (rows : List Row)
    (size pages : Nat) :
    ((List.range pages).flatMap fun page =>
        (rows.drop (page * size)).take size) =
      rows.take (pages * size) := by
  induction pages with
  | zero =>
      simp
  | succ pages inductionHypothesis =>
      rw [List.range_succ, List.flatMap_append, inductionHypothesis,
        List.flatMap_singleton, Nat.succ_mul, List.take_add]

/-- What the data browser is given for a page. -/
def browse
    (search : Search Document)
    (query tier : Text)
    (page : Nat) : SearchResult Document :=
  searchRecords search (searchRoute (View.params ⟨query, tier, page⟩))

/-- The last page ends where the matches or the result window end. -/
theorem totalPages_covers (count : Nat) :
    totalPages (min resultWindow count) * pageSize ≤ resultWindow ∧
      min resultWindow count ≤
        totalPages (min resultWindow count) * pageSize := by
  unfold totalPages pageSize resultWindow
  omega

/-- A page that can be reached is within the result window. -/
theorem browse_eq
    {search : Search Document}
    {matching : EsQuery → List Document}
    (serves : Serves search matching)
    (query tier : Text)
    {page : Nat}
    (positive : 0 < page)
    (reached :
      page ≤
        totalPages
          (min resultWindow
            (matching (esQuery (some query) (some tier))).length)) :
    browse search query tier page =
      { total :=
          min resultWindow
            (matching (esQuery (some query) (some tier))).length
        page := .finite page
        limit := pageSize
        documents :=
          ((matching (esQuery (some query) (some tier))).drop
            ((page - 1) * pageSize)).take pageSize
        error := none } := by
  have inWindow : page * pageSize ≤ resultWindow :=
    (Nat.mul_le_mul_right pageSize reached).trans (totalPages_covers _).1
  have within : (page - 1) * pageSize + pageSize ≤ resultWindow := by
    rwa [← Nat.succ_mul, Nat.succ_eq_add_one, Nat.sub_add_cancel positive]
  have bits : page * pageSize < 2 ^ 53 :=
    lt_of_le_of_lt inWindow (by decide)
  have pageBits : page < 2 ^ 53 :=
    lt_of_le_of_lt (Nat.le_mul_of_pos_right _ (by decide)) bits
  have isRequest := @request_params ⟨query, tier, page⟩ positive bits
  have isPage := @pageOf_params ⟨query, tier, page⟩ positive pageBits
  have isLimit := @limitOf_params ⟨query, tier, page⟩ positive pageBits
  unfold browse searchRecords
  rw [isRequest, serves.within _ _ _ within]
  simp only [isPage, isLimit, Option.getD_some, List.filterMap_map,
    Function.id_comp, List.filterMap_some]

/-- The rows of a page and the numbers under it. -/
structure ShowsPage
    (matches_ : List Document)
    (total page : Nat)
    (result : SearchResult Document) : Prop where
  accepted : result.error = none
  counted : result.total = total
  isPage : result.page = .finite page
  rows :
    result.documents =
      (matches_.take (lastRow total page)).drop (firstRow total page - 1)
  numbered :
    total ≠ 0 →
      firstRow total page + result.documents.length =
        lastRow total page + 1

/-- The rows of a page that can be reached. -/
theorem ShowsPage.of_reached
    {matches_ : List Document}
    {page : Nat}
    (positive : 0 < page)
    (reached : page ≤ totalPages (min resultWindow matches_.length)) :
    ShowsPage matches_ (min resultWindow matches_.length) page
      { total := min resultWindow matches_.length
        page := .finite page
        limit := pageSize
        documents := (matches_.drop ((page - 1) * pageSize)).take pageSize
        error := none } := by
  have covered :
      (page - 1) * pageSize ≤ min resultWindow matches_.length ∧
        min (lastRow (min resultWindow matches_.length) page -
              (page - 1) * pageSize)
            (matches_.length - (page - 1) * pageSize) =
          min pageSize (matches_.length - (page - 1) * pageSize) ∧
        (min resultWindow matches_.length ≠ 0 →
          (page - 1) * pageSize + 1 +
              min pageSize (matches_.length - (page - 1) * pageSize) =
            lastRow (min resultWindow matches_.length) page + 1) := by
    unfold totalPages at reached
    unfold lastRow
    unfold pageSize resultWindow at *
    omega
  obtain ⟨starts, length, ends⟩ := covered
  have first :
      firstRow (min resultWindow matches_.length) page - 1 =
        (page - 1) * pageSize := by
    unfold firstRow
    split
    · rename_i empty
      rw [empty] at starts
      exact (Nat.le_zero.mp starts).symm
    · exact Nat.add_sub_cancel _ _
  refine ⟨rfl, rfl, rfl, ?_, ?_⟩
  · rw [first, List.drop_take, List.take_eq_take_iff, List.length_drop]
    exact length.symm
  · intro some
    rw [List.length_take, List.length_drop, firstRow, if_neg some]
    exact ends some

/--
Every search, whatever its parameters, asks for one to a hundred documents, at
an offset that is not negative and, below `Number.MAX_SAFE_INTEGER`, is a whole
number of pages.  Over an index that does not change, the
data browser, which offers the pages from 1 to `totalPages`, shows on them all
matches up to the result window, each once and in order, with no page rejected;
and the row numbers under a page are the places of its rows among the matches.
-/
theorem pages_tile
    {search : Search Document}
    {matching : EsQuery → List Document}
    (serves : Serves search matching)
    (query tier : Text) :
    (∀ params, WholePages (request params)) ∧
      ∀ matches_, matches_ = matching (esQuery (some query) (some tier)) →
        ∀ total, total = min resultWindow matches_.length →
          (∀ page, 0 < page → page ≤ totalPages total →
            ShowsPage matches_ total page
              (browse search query tier page)) ∧
          ((List.range (totalPages total)).flatMap fun page =>
              (browse search query tier (page + 1)).documents) =
            matches_.take resultWindow := by
  refine ⟨request_wholePages, ?_⟩
  rintro _ rfl _ rfl
  refine ⟨fun page positive reached => ?_, ?_⟩
  · rw [browse_eq serves query tier positive reached]
    exact .of_reached positive reached
  · have each :
        ∀ page ∈
            List.range
              (totalPages
                (min resultWindow
                  (matching (esQuery (some query) (some tier))).length)),
          (browse search query tier (page + 1)).documents =
            ((matching (esQuery (some query) (some tier))).drop
              (page * pageSize)).take pageSize := by
      intro page member
      rw [browse_eq serves query tier (Nat.succ_pos page)
        (List.mem_range.mp member)]
      rfl
    rw [List.flatMap_congr each, flatMap_pages, List.take_eq_take_iff]
    have covers :=
      totalPages_covers (matching (esQuery (some query) (some tier))).length
    unfold resultWindow at *
    omega

/-- Thirty documents, whatever the query. -/
def sampleMatching : EsQuery → List Nat :=
  fun _ => List.range 30

/-- An index that holds them. -/
def sampleSearch : Search Nat := fun request =>
  match request.from_ with
  | .finite start =>
      if start + request.size ≤ resultWindow then
        .ok
          { total :=
              some (min resultWindow (sampleMatching request.query).length)
            hits :=
              (((sampleMatching request.query).drop start.toNat).take
                request.size.toNat).map some }
      else
        .error "Result window is too large"
  | _ => .error "failed to parse field from"

/-- It serves them. -/
theorem sampleSearch_serves : Serves sampleSearch sampleMatching := by
  constructor
  intro start size query within
  have fits : (start : Int) + size ≤ resultWindow := by exact_mod_cast within
  exact if_pos fits

/-- Two pages, of 25 and of 5. -/
theorem pages_tile_thirty :
    ((List.range 2).flatMap fun page =>
        (browse sampleSearch "ann".toList "ALL".toList
          (page + 1)).documents) =
      List.range 30 := by
  obtain ⟨-, tiles⟩ :=
    pages_tile sampleSearch_serves "ann".toList "ALL".toList
  exact (tiles _ rfl _ rfl).2.trans (by decide)

end Pages

end Replication
