/-
The export of user events, page by page.

A page is cut off behind its last row, and the cursor is the key of that row: its
`updated_at` and its `id`, as the texts that came back.  The next page asks for what is
greater than both, which is what stood behind the row, so the pages put together are the
matching rows in their order, whatever the limits are.  The scoring aggregate is folded over
such a walk.
-/
import Mathlib.Data.Prod.Lex
import Veridian.Common.DateTime
import Veridian.Lib.JsonParse
import Veridian.Lib.Keyset
import Veridian.Tunnel.Aggregator

namespace Veridian.ExportService

/-! ### The table -/

/-- A row of `events`: the columns a request reads, and the rest. -/
structure EventRow (τ ι ρ : Type) where
  updatedAt : τ
  id : ι
  userId : Option String
  rest : ρ

/-- What ClickHouse makes of the two columns of the key.  What `toString` wrote is read back as
it was when it is compared with the column. -/
structure KeyColumns (τ ι : Type) where
  timeText : τ → String
  idText : ι → String
  /-- The value of a `String` parameter beside `updated_at`. -/
  readTime : String → τ
  /-- The value of a `String` parameter beside `id`. -/
  readId : String → ι
  readTime_timeText : ∀ t, readTime (timeText t) = t
  readId_idText : ∀ i, readId (idText i) = i
  timeText_ne_empty : ∀ t, timeText t ≠ ""
  idText_ne_empty : ∀ i, idText i ≠ ""

structure Database (τ ι ρ φ : Type) extends KeyColumns τ ι where
  /-- `events FINAL` -/
  events : List (EventRow τ ι ρ)
  /-- `user_attribution FINAL`, of which a user has one row at most. -/
  attribution : String → Option φ

/-- The runtime: numbers in JSON texts, base64 and dates. -/
structure Runtime (N : Type) where
  numerals : Json.Numerals N
  readNumber : List Char → Option N
  reads : Json.Reads numerals readNumber id
  isZero : N → Bool
  /-- How a value that is no string is passed as a parameter. -/
  parameterText : Json N → String
  /-- `Buffer.from(text).toString('base64')` -/
  base64 : String → String
  /-- `Buffer.from(text, 'base64').toString()` -/
  fromBase64 : String → String
  fromBase64_base64 : ∀ text, fromBase64 (base64 text) = text
  base64_ne_empty : ∀ text, text ≠ "" → base64 text ≠ ""
  /-- `new Date(text)`, in milliseconds: `none` when it is invalid. -/
  date : String → Option Int

/-! ### Requests and responses -/

structure UserEventsQueryDto where
  cursor : Option String
  since : Option String
  until' : String
  userId : Option String
  limit : Option Nat

structure UserEventRow (ρ φ : Type) where
  id : String
  updatedAt : String
  userId : Option String
  rest : ρ
  firstTouch : Option φ

structure UserEventsResponse (ρ φ : Type) where
  data : List (UserEventRow ρ φ)
  nextCursor : Option String
  hasMore : Bool

structure CursorData where
  updatedAt : String
  id : String

section

variable {N : Type} (runtime : Runtime N)

/-- `!value`, of a member that may be missing. -/
def falsy : Option (Json N) → Bool
  | none | some .null => true
  | some (.bool b) => !b
  | some (.num n) => runtime.isZero n
  | some (.str s) => s = ""
  | some (.arr _) | some (.obj _) => false

def parameter : Option (Json N) → String
  | some (.str s) => s
  | some v => runtime.parameterText v
  | none => ""

/-- `none` on every error of the `try` block. -/
def decodeCursor (cursor : String) : Option CursorData :=
  match Json.parse runtime.readNumber (runtime.fromBase64 cursor) with
  | some (.obj members) =>
      let updatedAt := members.lookup "updated_at"
      let id := members.lookup "id"
      if falsy runtime updatedAt || falsy runtime id then none
      else some ⟨parameter runtime updatedAt, parameter runtime id⟩
  -- any other value has neither member, and `null` throws
  | _ => none

def encodeCursor (payload : CursorData) : String :=
  runtime.base64 <| Json.stringify runtime.numerals <|
    .obj [("updated_at", .str payload.updatedAt), ("id", .str payload.id)]

/-- What a cursor says is what the last row had. -/
theorem decode_encode {payload : CursorData} (htime : payload.updatedAt ≠ "")
    (hid : payload.id ≠ "") :
    decodeCursor runtime (encodeCursor runtime payload) = some payload := by
  have hkeys : Json.DistinctKeys (N := N)
      (.obj [("updated_at", .str payload.updatedAt), ("id", .str payload.id)]) :=
    ⟨(by decide : ["updated_at", "id"].Nodup), trivial, trivial, trivial⟩
  have hne : ("id" == "updated_at") = false := by decide
  unfold decodeCursor encodeCursor
  rw [runtime.fromBase64_base64, Json.parse_stringify runtime.numerals runtime.reads hkeys]
  simp [Json.substNumbers, Json.substMembers, List.lookup_cons, hne, falsy, parameter,
    htime, hid]

theorem encodeCursor_ne_empty (payload : CursorData) : encodeCursor runtime payload ≠ "" := by
  refine runtime.base64_ne_empty _ fun hempty => ?_
  have hlist := congrArg String.toList hempty
  rw [Json.stringify, String.toList_ofList] at hlist
  exact absurd hlist (List.cons_ne_nil _ _)

end

/-! ### One page -/

section

variable {N τ ι ρ φ : Type} [LinearOrder τ] [LinearOrder ι]
variable (runtime : Runtime N) (db : Database τ ι ρ φ)

/-- `toClickHouseDateTime(new Date(text))`, which throws for what is no date. -/
def toClickHouseDate (text : String) : Except String String :=
  match runtime.date text with
  | none => .error "Invalid time value"
  | some ms => .ok (toClickHouseDateTime ms)

/-- `(updated_at, id)` -/
def EventRow.key (e : EventRow τ ι ρ) : τ ×ₗ ι := toLex (e.updatedAt, e.id)

/-- Where a page starts: after a cursor, or with an instant. -/
inductive Start where
  | cursor (data : CursorData)
  | since (text : String)

def Start.admits (start : Start) (e : EventRow τ ι ρ) : Bool :=
  match start with
  | .cursor data => toLex (db.readTime data.updatedAt, db.readId data.id) < e.key
  | .since text => db.readTime text ≤ e.updatedAt

/-- `if (dto.user_id)` -/
def ofUser (userId : Option String) (e : EventRow τ ι ρ) : Bool :=
  match userId with
  | none => true
  | some id => id = "" || e.userId = some id

/-- `WHERE` -/
def whereClause (start : Start) (untilText : String) (userId : Option String)
    (e : EventRow τ ι ρ) : Bool :=
  e.userId.isSome && start.admits db e && e.updatedAt ≤ db.readTime untilText && ofUser userId e

/-- `SELECT … LEFT JOIN user_attribution` -/
def select (e : EventRow τ ι ρ) : UserEventRow ρ φ where
  id := db.idText e.id
  updatedAt := db.timeText e.updatedAt
  userId := e.userId
  rest := e.rest
  firstTouch := e.userId.bind db.attribution

/-- The rows of a request, all of them. -/
def matching (start : Start) (untilText : String) (userId : Option String) :
    List (EventRow τ ι ρ) :=
  Keyset.ordered EventRow.key (db.events.filter (whereClause db start untilText userId))

def query (start : Start) (untilText : String) (userId : Option String) (limit : Nat) :
    List (UserEventRow ρ φ) :=
  ((matching db start untilText userId).take limit).map (select db)

/-- The response to the rows that came back for `LIMIT ${limit + 1}`. -/
def respond (limit : Nat) (rows : List (UserEventRow ρ φ)) : UserEventsResponse ρ φ :=
  let hasMore : Bool := limit < rows.length
  let data := if hasMore then rows.take limit else rows
  let nextCursor :=
    match hasMore, data.getLast? with
    | true, some lastItem => some (encodeCursor runtime ⟨lastItem.updatedAt, lastItem.id⟩)
    | _, _ => none
  { data := data, nextCursor := nextCursor, hasMore := hasMore }

def startOf (dto : UserEventsQueryDto) : Except String Start :=
  match dto.cursor.filter (· ≠ ""), dto.since.filter (· ≠ "") with
  | none, none => .error "Either cursor or since parameter is required"
  | some cursor, _ =>
      match decodeCursor runtime cursor with
      | none => .error "Invalid cursor format"
      | some data => .ok (.cursor data)
  | none, some since => (toClickHouseDate runtime since).map Start.since

def getUserEvents (dto : UserEventsQueryDto) : Except String (UserEventsResponse ρ φ) := do
  let limit := dto.limit.getD 100
  let start ← startOf runtime dto
  let untilText ← toClickHouseDate runtime dto.until'
  return respond runtime limit (query db start untilText dto.userId (limit + 1))

/-! ### What is behind a page -/

/-- The cursor of a row. -/
def cursorOf (e : EventRow τ ι ρ) : CursorData := ⟨db.timeText e.updatedAt, db.idText e.id⟩

/-- Of the rows of a request the cursor of one admits those after it. -/
theorem matching_cursor {start : Start} {untilText : String} {userId : Option String}
    {last : EventRow τ ι ρ} (hlast : start.admits db last = true) :
    matching db (.cursor (cursorOf db last)) untilText userId =
      Keyset.after EventRow.key last.key (matching db start untilText userId) := by
  have hread : ∀ e : EventRow τ ι ρ,
      (Start.cursor (cursorOf db last)).admits db e = decide (last.key < e.key) := by
    intro e
    simp only [Start.admits, cursorOf, db.readTime_timeText, db.readId_idText]
    rfl
  have hadmits : ∀ e : EventRow τ ι ρ, last.key < e.key → start.admits db e = true := by
    intro e hlt
    cases start with
    | cursor data =>
        exact decide_eq_true ((of_decide_eq_true hlast).trans hlt)
    | since text =>
        refine decide_eq_true ((of_decide_eq_true hlast).trans ?_)
        exact (Prod.Lex.lt_iff.mp hlt).elim le_of_lt fun h => h.1.le
  unfold matching Keyset.after
  rw [← Keyset.ordered_filter, List.filter_filter]
  congr 2
  funext e
  unfold whereClause
  rw [hread]
  by_cases hlt : last.key < e.key
  · simp [hlt, hadmits e hlt]
  · simp [hlt]

theorem matching_pairwise (hids : (db.events.map EventRow.id).Nodup) (start : Start)
    (untilText : String) (userId : Option String) :
    (matching db start untilText userId).Pairwise fun a b => a.key < b.key := by
  have hkeys : (db.events.map EventRow.key).Nodup := by
    refine List.Nodup.of_map (fun k => (ofLex k).2) ?_
    rw [List.map_map]
    exact hids
  exact Keyset.ordered_pairwise_lt (hkeys.sublist (List.filter_sublist.map _))

theorem admits_of_mem_matching {start : Start} {untilText : String} {userId : Option String}
    {e : EventRow τ ι ρ} (h : e ∈ matching db start untilText userId) :
    start.admits db e = true := by
  have hmem := (List.mem_filter.mp ((Keyset.ordered_perm _).mem_iff.mp h)).2
  simp only [whereClause, Bool.and_eq_true] at hmem
  exact hmem.1.1.2

/-- The rows that are left behind a page that is not the last. -/
theorem matching_next (hids : (db.events.map EventRow.id).Nodup) {start : Start}
    {untilText : String} {userId : Option String} {limit : Nat} {last : EventRow τ ι ρ}
    (hlast : ((matching db start untilText userId).take limit).getLast? = some last) :
    matching db (.cursor (cursorOf db last)) untilText userId =
      (matching db start untilText userId).drop limit := by
  have hmem := List.mem_of_mem_take (List.mem_of_getLast? hlast)
  rw [matching_cursor db (admits_of_mem_matching db hmem)]
  exact Keyset.after_page (matching_pairwise db hids _ _ _) hlast

/-! ### What a page says -/

/-- The response over the rows `M`: the first of them, and where to go on when there are
more. -/
def pageOf (limit : Nat) (M : List (EventRow τ ι ρ)) : UserEventsResponse ρ φ where
  data := (M.take limit).map (select db)
  nextCursor :=
    if limit < M.length then
      (M.take limit).getLast?.map fun last => encodeCursor runtime (cursorOf db last)
    else none
  hasMore := decide (limit < M.length)

omit [LinearOrder τ] [LinearOrder ι] in
theorem respond_take (limit : Nat) (M : List (EventRow τ ι ρ)) :
    respond runtime limit ((M.take (limit + 1)).map (select db)) = pageOf runtime db limit M := by
  have hlength : ((M.take (limit + 1)).map (select db)).length = min (limit + 1) M.length := by
    rw [List.length_map, List.length_take]
  unfold respond pageOf
  by_cases hmore : limit < M.length
  · have hcount : limit < min (limit + 1) M.length := by omega
    have hdata : ((M.take (limit + 1)).map (select db)).take limit =
        (M.take limit).map (select db) := by
      rw [← List.map_take, List.take_take, Nat.min_eq_left (Nat.le_succ limit)]
    simp only [hlength, hcount, hmore, decide_true, if_true, hdata, List.getLast?_map]
    cases (M.take limit).getLast? <;> rfl
  · have hcount : ¬limit < min (limit + 1) M.length := by omega
    have hall : M.take (limit + 1) = M := List.take_of_length_le (by omega)
    have hfirst : M.take limit = M := List.take_of_length_le (by omega)
    simp only [hall] at hlength ⊢
    simp only [hlength, hcount, hmore, decide_false, Bool.false_eq_true, if_false, hfirst]

theorem getUserEvents_eq {dto : UserEventsQueryDto} {start : Start} {untilText : String}
    (hstart : startOf runtime dto = .ok start)
    (huntil : toClickHouseDate runtime dto.until' = .ok untilText) {limit : Nat}
    (hlimit : dto.limit = some limit) :
    getUserEvents runtime db dto =
      .ok (pageOf runtime db limit (matching db start untilText dto.userId)) := by
  unfold getUserEvents
  rw [hlimit, Option.getD_some, hstart, huntil]
  exact congrArg Except.ok (respond_take runtime db limit _)

/-- The cursor of a page leads to what is behind it. -/
theorem exists_next (hids : (db.events.map EventRow.id).Nodup) {start : Start}
    {untilText : String} {userId : Option String} {limit : Nat} (hpos : 1 ≤ limit)
    (hmore : limit < (matching db start untilText userId).length) :
    ∃ next data, (pageOf runtime db limit (matching db start untilText userId)).nextCursor =
        some next ∧ next ≠ "" ∧ decodeCursor runtime next = some data ∧
      matching db (.cursor data) untilText userId =
        (matching db start untilText userId).drop limit := by
  have hne : (matching db start untilText userId).take limit ≠ [] := by
    intro hnil
    have hlength := congrArg List.length hnil
    rw [List.length_take, List.length_nil] at hlength
    omega
  have hlast := List.getLast?_eq_some_getLast hne
  refine ⟨encodeCursor runtime (cursorOf db (List.getLast _ hne)), cursorOf db (List.getLast _ hne),
    ?_, encodeCursor_ne_empty runtime _, ?_, matching_next db hids hlast⟩
  · unfold pageOf
    rw [if_pos hmore, hlast]
    rfl
  · exact decode_encode runtime (db.timeText_ne_empty _) (db.idText_ne_empty _)

/-! ### The walk -/

/-- The request of a walk: `since` leads to the first page, a cursor to the others. -/
def requestOf (since untilText : String) (userId cursor : Option String) (limit : Nat) :
    UserEventsQueryDto where
  cursor := cursor
  since := if cursor.isSome then none else some since
  until' := untilText
  userId := userId
  limit := some limit

theorem startOf_since {since instant : String} (hne : since ≠ "")
    (hsince : toClickHouseDate runtime since = .ok instant) (untilText : String)
    (userId : Option String) (limit : Nat) :
    startOf runtime (requestOf since untilText userId none limit) = .ok (.since instant) := by
  have hfilter : Option.filter (fun s : String => s ≠ "") (some since) = some since := by
    simp [hne]
  simp only [startOf, requestOf, Option.isSome_none, Bool.false_eq_true, if_false, hfilter,
    Option.filter_none, hsince]
  rfl

theorem startOf_cursor {next : String} {data : CursorData} (hne : next ≠ "")
    (hdecode : decodeCursor runtime next = some data) (since untilText : String)
    (userId : Option String) (limit : Nat) :
    startOf runtime (requestOf since untilText userId (some next) limit) = .ok (.cursor data) := by
  have hfilter : Option.filter (fun s : String => s ≠ "") (some next) = some next := by
    simp [hne]
  simp only [startOf, requestOf, hfilter, hdecode]

/-- Following the cursors, with the `n`-th of the limits; `none` when the walk does not come
to its end. -/
def follow (since untilText : String) (userId : Option String) (limits : Nat → Nat) :
    Nat → Nat → Option String → Option (List (UserEventsResponse ρ φ))
  | 0, _, _ => none
  | fuel + 1, n, cursor =>
      match getUserEvents runtime db (requestOf since untilText userId cursor (limits n)) with
      | .error _ => none
      | .ok page =>
          if page.hasMore then
            page.nextCursor.bind fun next =>
              (follow since untilText userId limits fuel (n + 1) (some next)).map (page :: ·)
          else some [page]

/-- A walk from any start, by induction on the requests that are left: every page but the
last takes a row at least. -/
theorem follow_from (hids : (db.events.map EventRow.id).Nodup) {since untilText bound : String}
    {userId : Option String} {limits : Nat → Nat} (hlimits : ∀ n, 1 ≤ limits n)
    (huntil : toClickHouseDate runtime untilText = .ok bound) (fuel : Nat) :
    ∀ (n : Nat) (cursor : Option String) (start : Start),
      (∀ limit, startOf runtime (requestOf since untilText userId cursor limit) = .ok start) →
      (matching db start bound userId).length < fuel →
      ∃ pages, follow runtime db since untilText userId limits fuel n cursor = some pages ∧
        pages.flatMap UserEventsResponse.data =
          (matching db start bound userId).map (select db) := by
  induction fuel with
  | zero => exact fun _ _ _ _ hfuel => absurd hfuel (Nat.not_lt_zero _)
  | succ fuel ih =>
      intro n cursor start hstart hfuel
      have hpage : getUserEvents runtime db (requestOf since untilText userId cursor (limits n)) =
          .ok (pageOf runtime db (limits n) (matching db start bound userId)) :=
        getUserEvents_eq runtime db (hstart (limits n)) huntil rfl
      have hdata : (pageOf runtime db (limits n) (matching db start bound userId)).data =
          ((matching db start bound userId).take (limits n)).map (select db) := rfl
      unfold follow
      simp only [hpage]
      by_cases hmore : limits n < (matching db start bound userId).length
      · have hflag : (pageOf runtime db (limits n) (matching db start bound userId)).hasMore =
            true := decide_eq_true hmore
        obtain ⟨next, data, hnext, hne, hdecode, hrest⟩ :=
          exists_next runtime db hids (hlimits n) hmore
        have hshorter : (matching db (.cursor data) bound userId).length < fuel := by
          have hpos := hlimits n
          rw [hrest, List.length_drop]
          omega
        obtain ⟨pages, hpages, hpagesData⟩ := ih (n + 1) (some next) (.cursor data)
          (startOf_cursor runtime hne hdecode since untilText userId) hshorter
        refine ⟨pageOf runtime db (limits n) (matching db start bound userId) :: pages, ?_, ?_⟩
        · rw [if_pos hflag, hnext, Option.bind_some, hpages, Option.map_some]
        · rw [List.flatMap_cons, hpagesData, hrest, hdata, ← List.map_append,
            List.take_append_drop]
      · have hflag : ¬(pageOf runtime db (limits n) (matching db start bound userId)).hasMore =
            true := fun h => hmore (of_decide_eq_true h)
        refine ⟨_, if_neg hflag, ?_⟩
        rw [List.flatMap_singleton, hdata, List.take_of_length_le (Nat.not_lt.mp hmore)]

/-! ### The aggregate over a walk -/

def PAGE_SIZE : Nat := 1000

def MAX_PAGES : Nat := 200

structure TunnelAggregateResult (M : Type) where
  accs : List (String × Tunnel.Acc M)
  truncated : Bool
  nextCursor : Option String

variable {M : Type} [LinearOrder M] [Zero M] (readers : Tunnel.Readers M)
variable (raw : UserEventRow ρ φ → Tunnel.RawEventRow M)

/-- The loop, with the pages it may still read. -/
def aggregateLoop (since untilText : String) :
    Nat → Option String → Option (List (String × Tunnel.Acc M)) →
      Except String (List (String × Tunnel.Acc M) × Option String)
  | 0, cursor, acc => .ok (acc.getD [], cursor)
  | pages + 1, cursor, acc => do
      let page ← getUserEvents runtime db (requestOf since untilText none cursor PAGE_SIZE)
      let acc := Tunnel.aggregateEvents readers (page.data.map raw) acc
      match page.nextCursor with
      | none => return (acc, none)
      | some next => aggregateLoop since untilText pages (some next) (some acc)

def aggregate (since untilText : String) : Except String (TunnelAggregateResult M) := do
  let (accs, cursor) ← aggregateLoop runtime db readers raw since untilText MAX_PAGES none none
  return { accs := accs, truncated := cursor.isSome, nextCursor := cursor }

theorem aggregateEvents_append (events more : List (Tunnel.RawEventRow M))
    (acc : Option (List (String × Tunnel.Acc M))) :
    Tunnel.aggregateEvents readers (events ++ more) acc =
      Tunnel.aggregateEvents readers more (some (Tunnel.aggregateEvents readers events acc)) :=
  List.foldl_append

/-- The loop reads all rows there are, up to as many as its pages hold. -/
theorem aggregateLoop_from (hids : (db.events.map EventRow.id).Nodup)
    {since untilText bound : String} (huntil : toClickHouseDate runtime untilText = .ok bound)
    (pages : Nat) :
    ∀ (cursor : Option String) (start : Start) (acc : Option (List (String × Tunnel.Acc M))),
      startOf runtime (requestOf since untilText none cursor PAGE_SIZE) = .ok start →
      (pages = 0 → cursor ≠ none ∧ matching db start bound none ≠ []) →
      ∃ accs next, aggregateLoop runtime db readers raw since untilText pages cursor acc =
          .ok (accs, next) ∧
        (next = none ↔ (matching db start bound none).length ≤ pages * PAGE_SIZE) ∧
        (next = none → accs = Tunnel.aggregateEvents readers
          (((matching db start bound none).map (select db)).map raw) acc) := by
  induction pages with
  | zero =>
      intro cursor start acc _ hrest
      obtain ⟨hcursor, hrows⟩ := hrest rfl
      have hpos := List.length_pos_iff.mpr hrows
      refine ⟨_, cursor, rfl, iff_of_false hcursor (by omega), fun h => absurd h hcursor⟩
  | succ pages ih =>
      intro cursor start acc hstart _
      have hpage : getUserEvents runtime db (requestOf since untilText none cursor PAGE_SIZE) =
          .ok (pageOf runtime db PAGE_SIZE (matching db start bound none)) :=
        getUserEvents_eq runtime db hstart huntil rfl
      have hdata : (pageOf runtime db PAGE_SIZE (matching db start bound none)).data =
          ((matching db start bound none).take PAGE_SIZE).map (select db) := rfl
      unfold aggregateLoop
      rw [hpage]
      simp only [bind, Except.bind, pure, Except.pure, hdata]
      by_cases hmore : PAGE_SIZE < (matching db start bound none).length
      · obtain ⟨next, data, hnext, hne, hdecode, hrest⟩ :=
          exists_next runtime db hids (by decide : 1 ≤ PAGE_SIZE) hmore
        rw [hnext]
        obtain ⟨accs, last, hloop, hlast, haccs⟩ := ih (some next) (.cursor data)
          (some (Tunnel.aggregateEvents readers
            ((((matching db start bound none).take PAGE_SIZE).map (select db)).map raw) acc))
          (startOf_cursor runtime hne hdecode since untilText none PAGE_SIZE) (fun _ => by
            refine ⟨Option.some_ne_none _, List.ne_nil_of_length_pos ?_⟩
            rw [hrest, List.length_drop]
            omega)
        refine ⟨accs, last, hloop, ?_, fun h => ?_⟩
        · rw [hlast, hrest, List.length_drop, Nat.succ_mul]
          omega
        · rw [haccs h, hrest, ← aggregateEvents_append, ← List.map_append, ← List.map_append,
            List.take_append_drop]
      · have hnone : (pageOf runtime db PAGE_SIZE (matching db start bound none)).nextCursor =
            none := if_neg hmore
        rw [hnone]
        refine ⟨_, none, rfl, iff_of_true rfl ?_, fun _ => ?_⟩
        · rw [Nat.succ_mul]
          omega
        · rw [List.take_of_length_le (Nat.not_lt.mp hmore)]

/-- **Following the cursors reads the matching rows, each once and in order.**

For every table, window, user and limits: the walk ends, and its pages put together are the
matching rows sorted by `(updated_at, id)`; and the aggregate built page by page is the one
of all of them whenever it is not truncated. -/
theorem cursor_pagination_exact (hids : (db.events.map EventRow.id).Nodup)
    {since untilText first last : String} (hne : since ≠ "")
    (hsince : toClickHouseDate runtime since = .ok first)
    (huntil : toClickHouseDate runtime untilText = .ok last) (userId : Option String)
    {limits : Nat → Nat} (hlimits : ∀ n, 1 ≤ limits n) :
    (∃ fuel pages, follow runtime db since untilText userId limits fuel 0 none = some pages ∧
      pages.flatMap UserEventsResponse.data =
        (matching db (.since first) last userId).map (select db)) ∧
    ∃ result, aggregate runtime db readers raw since untilText = .ok result ∧
      (result.truncated = true ↔
        MAX_PAGES * PAGE_SIZE < (matching db (.since first) last none).length) ∧
      (result.truncated = false → result.accs = Tunnel.aggregateEvents readers
        (((matching db (.since first) last none).map (select db)).map raw) none) := by
  constructor
  · exact ⟨_, follow_from runtime db hids hlimits huntil _ 0 none _
      (startOf_since runtime hne hsince untilText userId) (Nat.lt_succ_self _)⟩
  · obtain ⟨accs, next, hloop, hnext, haccs⟩ := aggregateLoop_from runtime db readers raw hids
      huntil MAX_PAGES none _ none (startOf_since runtime hne hsince untilText none PAGE_SIZE)
      (fun h => absurd h (by decide))
    refine ⟨⟨accs, next.isSome, next⟩, ?_, ?_, ?_⟩
    · unfold aggregate
      rw [hloop]
      rfl
    · rw [← Nat.not_le, ← hnext]
      exact Option.isSome_iff_ne_none
    · exact fun h => haccs (Option.isNone_iff_eq_none.mp (Option.isSome_eq_false_iff.mp h))

end

namespace PageExample

/-- Three instants and three identifiers, written as digits. -/
def columns : KeyColumns (Fin 3) (Fin 3) where
  timeText := fun t => ["0", "1", "2"].getD t.val ""
  idText := fun i => ["0", "1", "2"].getD i.val ""
  readTime := fun s =>
    if s ∈ ["0", "1970-01-01 00:00:00.000"] then 0 else if s = "1" then 1 else 2
  readId := fun s => if s = "0" then 0 else if s = "1" then 1 else 2
  readTime_timeText := by decide
  readId_idText := by decide
  timeText_ne_empty := by decide
  idText_ne_empty := by decide

def event (updatedAt id : Fin 3) : EventRow (Fin 3) (Fin 3) Unit where
  updatedAt := updatedAt
  id := id
  userId := some "jo@yoga.fr"
  rest := ()

def db : Database (Fin 3) (Fin 3) Unit Unit :=
  { columns with events := [event 1 2, event 0 1, event 1 0], attribution := fun _ => none }

def runtime : Runtime Empty where
  numerals := ⟨nofun, nofun, nofun, nofun⟩
  readNumber := fun _ => none
  reads := nofun
  isZero := nofun
  parameterText := fun _ => ""
  base64 := id
  fromBase64 := id
  fromBase64_base64 := fun _ => rfl
  base64_ne_empty := fun _ h => h
  date := fun s =>
    if s = "1970-01-01" then some 0 else if s = "1970-01-02" then some 86400000 else none

end PageExample

open PageExample in
/-- Two of the events have one `updated_at`, and the pages have one row each. -/
theorem three_pages : ∃ fuel pages,
    follow runtime db "1970-01-01" "1970-01-02" none (fun _ => 1) fuel 0 none = some pages ∧
      (pages.flatMap UserEventsResponse.data).map UserEventRow.id = ["1", "0", "2"] := by
  have hsince : toClickHouseDate runtime "1970-01-01" = .ok "1970-01-01 00:00:00.000" := by
    decide
  have huntil : toClickHouseDate runtime "1970-01-02" = .ok "1970-01-02 00:00:00.000" := by
    decide
  obtain ⟨⟨fuel, pages, hwalk, hdata⟩, -⟩ := cursor_pagination_exact runtime db
    Tunnel.AuditExample.readers (fun _ => Tunnel.AuditExample.page) (by decide) (by decide)
    hsince huntil none fun _ => Nat.le_refl 1
  refine ⟨fuel, pages, hwalk, ?_⟩
  rw [hdata]
  decide

end Veridian.ExportService
