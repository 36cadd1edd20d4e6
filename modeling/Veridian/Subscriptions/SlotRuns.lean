/-
The slots over runs of requests.

`create`, `update`, `resume` and `markSent` store a slot that they compute.  A subscription that
is created daily has no day of the month, and `UpdateSubscriptionDto` lets it become monthly
without one: then the slot is the last day of the month before, moved on by a month, and that
may be over already.  `slotsAhead_iff` says exactly when it is not.
-/
import Veridian.Subscriptions.Slots

namespace Veridian.Subscriptions

open Calendar Replacing

structure CreateSubscriptionDto where
  workspaceId : String
  name : String
  frequency : SubscriptionFrequency
  dayOfWeek : Option Nat
  dayOfMonth : Option Nat
  hour : Option Nat
  timezone : Option String
  deriving DecidableEq

structure UpdateSubscriptionDto where
  id : String
  workspaceId : String
  name : Option String
  frequency : Option SubscriptionFrequency
  dayOfWeek : Option Nat
  dayOfMonth : Option Nat
  hour : Option Nat
  timezone : Option String
  deriving DecidableEq

def between (low high : Nat) (value : Nat) : Bool := low ≤ value ∧ value ≤ high

/-- `@ValidateIf`: the day of a frequency is looked at, and required, under that frequency only. -/
def CreateSubscriptionDto.accepted (dto : CreateSubscriptionDto) : Bool :=
  (dto.frequency ≠ .weekly || dto.dayOfWeek.any (between 1 7)) &&
    (dto.frequency ≠ .monthly || dto.dayOfMonth.any (between 1 28)) && dto.hour.all (between 0 23)

/-- `@IsOptional`: what is not sent is not looked at. -/
def UpdateSubscriptionDto.accepted (dto : UpdateSubscriptionDto) : Bool :=
  dto.dayOfWeek.all (between 1 7) && dto.dayOfMonth.all (between 1 28) &&
    dto.hour.all (between 0 23)

inductive Call where
  /-- With the id that is drawn, and the timezone of the workspace. -/
  | create (dto : CreateSubscriptionDto) (userId id workspaceTimezone : String)
  | update (dto : UpdateSubscriptionDto) (userId : String)
  | pause (id userId : String)
  | resume (id userId : String)
  | delete (id userId : String)
  | markSent (id : String)
  | markFailed (id error : String)
  deriving DecidableEq

/-- A call, and how long after the last one it computes and stores. -/
structure Request where
  wait : Nat
  call : Call
  deriving DecidableEq

/-- A row that was stored with a slot computed at the time. -/
structure Computed where
  time : Int
  row : Subscription
  deriving DecidableEq

structure SlotStore where
  rows : List Subscription
  clock : Int
  computed : List Computed
  deriving DecidableEq

def get (rows : List Subscription) (id userId : String) : Option Subscription :=
  ((final Subscription.key Subscription.updatedAt rows).filter fun sub =>
    sub.id = id ∧ sub.userId = userId ∧ sub.status ≠ .disabled).head?

/-! ### The calls -/

/-- What `create` stores, but for the slot. -/
def newSubscription (dto : CreateSubscriptionDto) (userId id workspaceTimezone : String)
    (now : Int) : Subscription where
  id := id
  userId := userId
  workspaceId := dto.workspaceId
  name := dto.name
  frequency := dto.frequency
  dayOfWeek := dto.dayOfWeek
  dayOfMonth := dto.dayOfMonth
  hour := dto.hour.getD 8
  timezone := dto.timezone.getD workspaceTimezone
  status := .active
  lastSentAt := none
  lastSendStatus := .pending
  lastError := ""
  nextSendAt := none
  consecutiveFailures := 0
  updatedAt := now

/-- What `update` stores, but for the slot. -/
def merged (existing : Subscription) (dto : UpdateSubscriptionDto) : Subscription :=
  { existing with
    name := dto.name.getD existing.name
    frequency := dto.frequency.getD existing.frequency
    dayOfWeek := dto.dayOfWeek.or existing.dayOfWeek
    dayOfMonth := dto.dayOfMonth.or existing.dayOfMonth
    hour := dto.hour.getD existing.hour
    timezone := dto.timezone.getD existing.timezone }

section Calls

variable {δ : Type} (dayjs : Dayjs δ) (known : String → Bool)

def createdRow (dto : CreateSubscriptionDto) (userId id workspaceTimezone : String) (now : Int) :
    Subscription :=
  let sub := newSubscription dto userId id workspaceTimezone now
  { sub with nextSendAt := some (calculateNextSendAt dayjs sub now) }

def updatedRow (existing : Subscription) (dto : UpdateSubscriptionDto) (now : Int) :
    Subscription :=
  { merged existing dto with
    nextSendAt :=
      if existing.status = .active then some (calculateNextSendAt dayjs (merged existing dto) now)
      else none
    updatedAt := now }

def pausedRow (existing : Subscription) (now : Int) : Subscription :=
  { existing with status := .paused, nextSendAt := none, updatedAt := now }

def resumedRow (existing : Subscription) (now : Int) : Subscription :=
  { existing with
    status := .active, nextSendAt := some (calculateNextSendAt dayjs existing now),
    updatedAt := now }

def deletedRow (existing : Subscription) (now : Int) : Subscription :=
  { existing with status := .disabled, nextSendAt := none, updatedAt := now }

/-- The row a call stores, unless the DTO, the lookup or the timezone makes it throw. -/
def storedRow (rows : List Subscription) (now : Int) : Call → Option Subscription
  | .create dto userId id workspaceTimezone =>
      if dto.accepted && known (dto.timezone.getD workspaceTimezone) then
        some (createdRow dayjs dto userId id workspaceTimezone now)
      else none
  | .update dto userId =>
      (get rows dto.id userId).bind fun existing =>
        if dto.accepted && (existing.status ≠ .active || known (merged existing dto).timezone) then
          some (updatedRow dayjs existing dto now)
        else none
  | .pause id userId => (get rows id userId).map (pausedRow · now)
  | .resume id userId =>
      ((get rows id userId).filter fun existing => known existing.timezone).map
        (resumedRow dayjs · now)
  | .delete id userId => (get rows id userId).map (deletedRow · now)
  | .markSent id =>
      ((getById rows id).filter fun existing => known existing.timezone).map (sentRow dayjs · now)
  | .markFailed id error => (getById rows id).map (failedRow · error now)

/-- The calls that compute a slot. -/
def Call.computes : Call → Bool
  | .create .. | .update .. | .resume .. | .markSent .. => true
  | .pause .. | .delete .. | .markFailed .. => false

def request (s : SlotStore) (r : Request) : SlotStore :=
  let now := s.clock + r.wait
  match storedRow dayjs known s.rows now r.call with
  | none => { s with clock := now }
  | some row =>
      { rows := s.rows ++ [row], clock := now,
        computed := if r.call.computes then s.computed ++ [⟨now, row⟩] else s.computed }

def slotStep (s : SlotStore) (r : Request) : Option SlotStore := some (request dayjs known s r)

end Calls

def SlotStore.init (clock : Int) : SlotStore := ⟨[], clock, []⟩

/-! ### The claim and its condition -/

/-- Every slot was still to come when it was computed, so that its row was not due. -/
def SlotsAhead (s : SlotStore) : Prop :=
  ∀ c ∈ s.computed, ∀ slot ∈ c.row.nextSendAt, c.time < slot

instance (s : SlotStore) : Decidable (SlotsAhead s) :=
  inferInstanceAs (Decidable (∀ c ∈ s.computed, ∀ slot ∈ c.row.nextSendAt, c.time < slot))

/-- The subscription whose slot the call computes. -/
def slotOf (rows : List Subscription) (now : Int) : Call → Option Subscription
  | .create dto userId id workspaceTimezone =>
      some (newSubscription dto userId id workspaceTimezone now)
  | .update dto userId =>
      ((get rows dto.id userId).filter fun existing => existing.status = .active).map (merged · dto)
  | .resume id userId => get rows id userId
  | .markSent id => getById rows id
  | _ => none

/-- A monthly subscription has a day, unless the last day that this month and the month before
both have is still to come, or the hour of the subscription on it. -/
def HasDay (sub : Subscription) (wall : Int) : Prop :=
  sub.frequency = .monthly → sub.dayOfMonth.getD 0 = 0 →
    (civil (wall / 86400000)).day < (civil (wall / 86400000)).lastShared ∨
      (civil (wall / 86400000)).day = (civil (wall / 86400000)).lastShared ∧
        wall / 3600000 % 24 < sub.hour

instance (sub : Subscription) (wall : Int) : Decidable (HasDay sub wall) :=
  inferInstanceAs (Decidable (_ → _ → _ ∨ _ ∧ _))

section Condition

variable {δ : Type} (dayjs : Dayjs δ) (known : String → Bool) (wall : δ → Int)

/-- A request that stores a slot computes it for a subscription that has a day. -/
def SetsDay (s : SlotStore) (r : Request) : Prop :=
  let now := s.clock + r.wait
  (storedRow dayjs known s.rows now r.call).isSome →
    ∀ sub ∈ slotOf s.rows now r.call, HasDay sub (wall (dayjs.tz now sub.timezone))

instance (s : SlotStore) (r : Request) : Decidable (SetsDay dayjs known wall s r) :=
  inferInstanceAs (Decidable (_ → ∀ sub ∈ slotOf s.rows (s.clock + r.wait) r.call,
    HasDay sub (wall (dayjs.tz (s.clock + r.wait) sub.timezone))))

end Condition

/-! ### One slot -/

section Slot

variable {δ : Type} {dayjs : Dayjs δ} {known : String → Bool} {wall offset : δ → Int}

/-- A slot is still to come exactly when the subscription has a day. -/
theorem lt_calculateNextSendAt_iff (h : WallClock dayjs wall offset) {sub : Subscription}
    (hhour : sub.hour ≤ 23) (time : Int) :
    time < calculateNextSendAt dayjs sub time ↔
      HasDay sub (wall (dayjs.tz time sub.timezone)) := by
  have hnow := h.tz time sub.timezone
  obtain ⟨next, hnext, hoffset, hresult⟩ := h.calculateNextSendAt_wall sub hhour _ rfl
  have hpassed := h.passed_of_day hhour hnext hoffset
  have hahead := h.ahead_of_not_passed hhour hnext hoffset
  unfold HasDay
  generalize dayjs.tz time sub.timezone = now at hnow hnext hoffset hresult hpassed hahead ⊢
  by_cases hday : sub.frequency = .monthly → 1 ≤ sub.dayOfMonth.getD 0
  · have hmoved := lt_moveOn hday (wall now / 86400000)
    refine iff_of_true ?_ fun hmonthly hzero => ?_
    · cases htest : hasPassed dayjs sub now next with
      | false =>
          have hahead' := hahead htest
          rw [htest] at hresult
          unfold Ahead at hahead'
          simp only [Bool.false_eq_true, if_false] at hresult
          omega
      | true =>
          rw [htest, if_pos rfl] at hresult
          omega
    · have := hday hmonthly
      omega
  · obtain ⟨hmonthly, hzero⟩ := Classical.not_imp.mp hday
    have hzero' : sub.dayOfMonth.getD 0 = 0 := by omega
    have htarget : targetDay sub (wall now / 86400000) = inMonth (wall now / 86400000) 0 := by
      unfold targetDay
      rw [hmonthly, hzero']
      rfl
    have hfirst := (civil_valid (wall now / 86400000)).day.1
    have hbefore : inMonth (wall now / 86400000) 0 < wall now / 86400000 := by
      unfold inMonth
      omega
    have hmove : moveOn sub (inMonth (wall now / 86400000) 0) =
        addMonth (inMonth (wall now / 86400000) 0) := by
      unfold moveOn
      rw [hmonthly]
    rw [hpassed (htarget ▸ hbefore), if_pos rfl, htarget, hmove, addMonth_preceding] at hresult
    have hslot : time < calculateNextSendAt dayjs sub time ↔
        Ahead sub (wall now) (inMonth (wall now / 86400000)
          (civil (wall now / 86400000)).lastShared) := by
      unfold Ahead
      omega
    rw [hslot, ahead_iff hhour]
    unfold inMonth
    refine ⟨fun hor _ _ => ?_, fun hor => ?_⟩
    · omega
    · have hor' := hor hmonthly hzero'
      omega

theorem mem_of_get {rows : List Subscription} {id userId : String} {sub : Subscription}
    (hget : get rows id userId = some sub) : sub ∈ rows :=
  final_subset _ _ _ (List.mem_of_mem_filter (List.mem_of_mem_head? hget))

/-! ### One request -/

/-- The hour of a day. -/
def HoursOk (rows : List Subscription) : Prop := ∀ r ∈ rows, r.hour ≤ 23

theorem newSubscription_hour {dto : CreateSubscriptionDto} (hdto : dto.accepted = true)
    (userId id workspaceTimezone : String) (now : Int) :
    (newSubscription dto userId id workspaceTimezone now).hour ≤ 23 := by
  have hhour : dto.hour.all (between 0 23) = true := (Bool.and_eq_true_iff.mp hdto).2
  show dto.hour.getD 8 ≤ 23
  cases hsent : dto.hour with
  | none => exact (by decide : 8 ≤ 23)
  | some hour =>
      rw [hsent] at hhour
      exact (of_decide_eq_true hhour).2

theorem merged_hour {dto : UpdateSubscriptionDto} (hdto : dto.accepted = true)
    {existing : Subscription} (hexisting : existing.hour ≤ 23) :
    (merged existing dto).hour ≤ 23 := by
  have hhour : dto.hour.all (between 0 23) = true := (Bool.and_eq_true_iff.mp hdto).2
  show dto.hour.getD existing.hour ≤ 23
  cases hsent : dto.hour with
  | none => exact hexisting
  | some hour =>
      rw [hsent] at hhour
      exact (of_decide_eq_true hhour).2

/-- The row a call stores, and the slot it computes for it. -/
theorem storedRow_spec {rows : List Subscription} (hhours : HoursOk rows) {now : Int} {call : Call}
    {row : Subscription} (hrow : storedRow dayjs known rows now call = some row) :
    row.hour ≤ 23 ∧ (call.computes = true →
      (∀ sub ∈ slotOf rows now call, sub.hour ≤ 23) ∧
        row.nextSendAt = (slotOf rows now call).map (calculateNextSendAt dayjs · now)) := by
  cases call with
  | create dto userId id workspaceTimezone =>
      obtain ⟨haccepted, hrow⟩ := Option.ite_none_right_eq_some.mp hrow
      obtain rfl := Option.some.inj hrow
      have hhour := newSubscription_hour (Bool.and_eq_true_iff.mp haccepted).1 userId id
        workspaceTimezone now
      exact ⟨hhour, fun _ => ⟨fun sub hsub => Option.some.inj hsub ▸ hhour, rfl⟩⟩
  | update dto userId =>
      obtain ⟨existing, hget, hrow⟩ := Option.bind_eq_some_iff.mp hrow
      obtain ⟨haccepted, hrow⟩ := Option.ite_none_right_eq_some.mp hrow
      obtain rfl := Option.some.inj hrow
      have hhour := merged_hour (Bool.and_eq_true_iff.mp haccepted).1
        (hhours existing (mem_of_get hget))
      refine ⟨hhour, fun _ => ?_⟩
      unfold slotOf updatedRow
      dsimp only
      rw [hget, Option.filter_some]
      by_cases hactive : existing.status = .active
      · simp [hactive, hhour]
      · simp [hactive]
  | pause id userId =>
      obtain ⟨existing, hget, rfl⟩ := Option.map_eq_some_iff.mp hrow
      exact ⟨hhours existing (mem_of_get hget), fun h => absurd h Bool.false_ne_true⟩
  | resume id userId =>
      obtain ⟨existing, hfilter, rfl⟩ := Option.map_eq_some_iff.mp hrow
      obtain ⟨hget, -⟩ := Option.filter_eq_some_iff.mp hfilter
      have hhour := hhours existing (mem_of_get hget)
      refine ⟨hhour, fun _ => ?_⟩
      unfold slotOf
      dsimp only
      rw [hget]
      exact ⟨fun sub hsub => Option.some.inj hsub ▸ hhour, rfl⟩
  | delete id userId =>
      obtain ⟨existing, hget, rfl⟩ := Option.map_eq_some_iff.mp hrow
      exact ⟨hhours existing (mem_of_get hget), fun h => absurd h Bool.false_ne_true⟩
  | markSent id =>
      obtain ⟨existing, hfilter, rfl⟩ := Option.map_eq_some_iff.mp hrow
      obtain ⟨hget, -⟩ := Option.filter_eq_some_iff.mp hfilter
      have hhour := hhours existing (mem_of_getById hget).1
      refine ⟨hhour, fun _ => ?_⟩
      unfold slotOf
      dsimp only
      rw [hget]
      exact ⟨fun sub hsub => Option.some.inj hsub ▸ hhour, rfl⟩
  | markFailed id error =>
      obtain ⟨existing, hget, rfl⟩ := Option.map_eq_some_iff.mp hrow
      exact ⟨hhours existing (mem_of_getById hget).1, fun h => absurd h Bool.false_ne_true⟩

theorem slotOf_of_not_computes {rows : List Subscription} {now : Int} {call : Call}
    (hcall : call.computes = false) : slotOf rows now call = none := by
  cases call with
  | pause id userId => rfl
  | delete id userId => rfl
  | markFailed id error => rfl
  | _ => exact nomatch hcall

theorem request_hoursOk {s : SlotStore} (hhours : HoursOk s.rows) (r : Request) :
    HoursOk (request dayjs known s r).rows := by
  unfold request
  dsimp only
  cases hrow : storedRow dayjs known s.rows (s.clock + r.wait) r.call with
  | none => exact hhours
  | some row =>
      intro r' hr'
      rcases List.mem_append.mp hr' with hold | hnew
      · exact hhours r' hold
      · rw [List.mem_singleton.mp hnew]
        exact (storedRow_spec hhours hrow).1

/-- A request leaves the slots ahead exactly when it computes one for a subscription that has a
day. -/
theorem request_iff (h : WallClock dayjs wall offset) {s : SlotStore} (hhours : HoursOk s.rows)
    (hahead : SlotsAhead s) (r : Request) :
    SlotsAhead (request dayjs known s r) ↔ SetsDay dayjs known wall s r := by
  unfold request SetsDay
  dsimp only
  cases hrow : storedRow dayjs known s.rows (s.clock + r.wait) r.call with
  | none => exact iff_of_true hahead fun hsome => absurd hsome (by simp)
  | some row =>
      cases hcomputes : r.call.computes with
      | false =>
          rw [slotOf_of_not_computes hcomputes]
          exact iff_of_true hahead fun _ sub hsub => absurd hsub (by simp)
      | true =>
          obtain ⟨hhour, hslot⟩ := (storedRow_spec hhours hrow).2 hcomputes
          have hsplit : SlotsAhead ⟨s.rows ++ [row], s.clock + r.wait,
              s.computed ++ [⟨s.clock + r.wait, row⟩]⟩ ↔
              ∀ slot ∈ row.nextSendAt, s.clock + r.wait < slot := by
            refine ⟨fun hall => hall ⟨s.clock + r.wait, row⟩ (by simp), fun hnew c hc => ?_⟩
            rcases List.mem_append.mp hc with hold | hlast
            · exact hahead c hold
            · rw [List.mem_singleton.mp hlast]
              exact hnew
          show SlotsAhead ⟨_, _, s.computed ++ [⟨s.clock + r.wait, row⟩]⟩ ↔ _
          rw [hsplit, hslot]
          refine ⟨fun hall _ sub hsub => ?_, fun hall slot hmem => ?_⟩
          · exact (lt_calculateNextSendAt_iff h (hhour sub hsub) _).mp
              (hall _ (Option.mem_map_of_mem _ hsub))
          · obtain ⟨sub, hsub, rfl⟩ := Option.mem_map.mp hmem
            exact (lt_calculateNextSendAt_iff h (hhour sub hsub) _).mpr (hall rfl sub hsub)

/-- **In a run every slot is still to come when it is computed exactly when each request that
computes one does so for a subscription that has a day.** -/
theorem slotsAhead_iff (h : WallClock dayjs wall offset) (clock : Int) (requests : List Request) :
    (∀ before s, before <+: requests →
      Machine.exec (slotStep dayjs known) (SlotStore.init clock) before = some s → SlotsAhead s) ↔
      Machine.Meets (slotStep dayjs known) (SetsDay dayjs known wall) (SlotStore.init clock)
        requests := by
  refine Machine.always_iff_meets (I := fun s => HoursOk s.rows) (fun s r s' hhours hstep => ?_)
    (fun s r s' hhours hahead hstep => ?_) (fun s r hstep => absurd hstep (by simp [slotStep]))
    (fun r hr => absurd hr List.not_mem_nil) (fun c hc => absurd hc List.not_mem_nil)
  · obtain rfl := Option.some.inj hstep
    exact request_hoursOk hhours r
  · obtain rfl := Option.some.inj hstep
    exact request_iff h hhours hahead r

end Slot

namespace SlotExample

def daily : CreateSubscriptionDto := ⟨"acme", "Daily", .daily, none, none, none, some "UTC"⟩

/-- At noon of 29 March 2023. -/
def atNoon (call : Call) : Request := ⟨1680091200000, call⟩

def toMonthly (dayOfMonth : Option Nat) : Request :=
  ⟨86400000, .update ⟨"r1", "acme", none, some .monthly, none, dayOfMonth, none, none⟩ "u1"⟩

/-- A daily report becomes monthly on 30 March: its slot is eight in the morning of 28 March,
also after it has been sent. -/
theorem monthly_without_day :
    ∃ s, Machine.exec (slotStep (fixedZones zones) fun _ => true) (SlotStore.init 0)
        [atNoon (.create daily "u1" "r1" "UTC"), toMonthly none, ⟨900000, .markSent "r1"⟩] =
        some s ∧ (findDue s.rows s.clock).map (·.id) = ["r1"] ∧ ¬SlotsAhead s :=
  ⟨_, rfl, by decide, by decide⟩

def monthlyWithDay : List Request :=
  [atNoon (.create daily "u1" "r1" "UTC"), toMonthly (some 28)]

/-- With a day of the month the slot is still to come. -/
theorem monthly_with_day : ∃ s, Machine.exec (slotStep (fixedZones zones) fun _ => true)
    (SlotStore.init 0) monthlyWithDay = some s ∧ SlotsAhead s := by
  have hmeets : Machine.Meets (slotStep (fixedZones zones) fun _ => true)
      (SetsDay (fixedZones zones) (fun _ => true) Moment.wall) (SlotStore.init 0)
      monthlyWithDay := by decide
  exact ⟨_, rfl, (slotsAhead_iff (fixedZones_fixedOffset zones "UTC").toWallClock 0 _).mpr hmeets
    _ _ (List.prefix_refl _) rfl⟩

end SlotExample

end Veridian.Subscriptions
