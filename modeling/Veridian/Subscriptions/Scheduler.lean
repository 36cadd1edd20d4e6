/-
The report scheduler.

A tick takes the subscriptions that are due and handles them one after the other.  Handling
one prepares its report, mails it, marks it as sent, which moves it to its next slot, and
writes the audit log, all in one `try`; its `catch` marks the subscription as failed, which
leaves it in its slot, and writes the audit log again.  So what fails after the mail has gone
out sends the same report again, and what fails in the `catch` ends the tick.

`Clean` is what has to go right for neither to happen, and `oncePerSlot_of_clean` says that it
is enough, over every run of ticks.  The store keeps beside the table the reports that were
mailed and, for each tick, the subscriptions that were due and those that were handled.
-/
import Mathlib.Data.List.Sort
import Veridian.Lib.Machine
import Veridian.Lib.Replacing

namespace Veridian.Subscriptions

open Replacing

inductive SubscriptionFrequency where
  | daily | weekly | monthly
  deriving DecidableEq

inductive SubscriptionStatus where
  | active | paused | disabled
  deriving DecidableEq

inductive SendStatus where
  | pending | success | failed
  deriving DecidableEq

structure Subscription where
  id : String
  userId : String
  workspaceId : String
  name : String
  frequency : SubscriptionFrequency
  dayOfWeek : Option Nat
  dayOfMonth : Option Nat
  hour : Nat
  timezone : String
  status : SubscriptionStatus
  lastSentAt : Option Int
  lastSendStatus : SendStatus
  lastError : String
  nextSendAt : Option Int
  consecutiveFailures : Nat
  updatedAt : Int
  deriving DecidableEq

/-- `ORDER BY (user_id, workspace_id, id)`. -/
def Subscription.key (sub : Subscription) : String × String × String :=
  (sub.userId, sub.workspaceId, sub.id)

/-- What `calculateNextSendAt` takes of `dayjs`. -/
structure Dayjs (δ : Type) where
  /-- `dayjs().tz(timezone)` at the time `now`. -/
  tz : Int → String → δ
  hour : δ → Nat
  /-- `.hour(hour).minute(0).second(0).millisecond(0)` -/
  atHour : δ → Nat → δ
  day : δ → Option Nat → δ
  date : δ → Option Nat → δ
  addDay : δ → δ
  addWeek : δ → δ
  addMonth : δ → δ
  isBefore : δ → δ → Bool
  isSameDay : δ → δ → Bool
  utc : δ → Int

/-- What the requests of handling one subscription answer: an error, or how it goes on; for
the two writes, the milliseconds that have gone by at the insert. -/
structure Handling where
  refetch : Except String Unit
  /-- The address of the user, if there is one. -/
  user : Except String (Option String)
  smtpAvailable : Except String Bool
  /-- The label of the date range of the report. -/
  generate : Except String String
  renderEmail : Except String String
  sendReport : Except String Unit
  markSent : Except String Nat
  auditSent : Except String Unit
  markFailed : Except String Nat
  auditFailed : Except String Unit

structure Mail where
  email : String
  subject : String
  html : String
  deriving DecidableEq

/-- A report that was mailed, for the slot it was due at. -/
structure Sent where
  id : String
  slot : Option Int
  mail : Mail
  deriving DecidableEq

structure TickRecord where
  due : List Subscription
  handled : List Subscription
  deriving DecidableEq

structure SchedulerStore where
  rows : List Subscription
  clock : Int
  sent : List Sent
  ticks : List TickRecord
  deriving DecidableEq

/-- A tick: how long after the last step it comes, and what the requests for each of the
subscriptions that are due then answer. -/
structure Tick where
  wait : Nat
  handling : Nat → Handling

/-! ### The subscriptions -/

def getById (rows : List Subscription) (id : String) : Option Subscription :=
  ((final Subscription.key Subscription.updatedAt rows).filter fun sub =>
    sub.id = id ∧ sub.status ≠ .disabled).head?

def isDue (now : Int) (sub : Subscription) : Bool :=
  (sub.nextSendAt.any fun slot => slot ≤ now) ∧ sub.status = .active

def findDue (rows : List Subscription) (now : Int) : List Subscription :=
  ((final Subscription.key Subscription.updatedAt rows).filter (isDue now)).insertionSort
    fun a b => a.nextSendAt.getD 0 ≤ b.nextSendAt.getD 0

/-- `insertSubscription`, `delay` milliseconds later. -/
def SchedulerStore.insert (s : SchedulerStore) (row : Subscription) (delay : Nat) :
    SchedulerStore :=
  { s with rows := s.rows ++ [row], clock := s.clock + delay }

section Service

variable {δ : Type} (dayjs : Dayjs δ)

/-- The columns of a weekly or monthly row hold a day or `null`, never `undefined`. -/
def calculateNextSendAt (sub : Subscription) (time : Int) : Int :=
  let now := dayjs.tz time sub.timezone
  let next := dayjs.atHour now sub.hour
  let passed (next : δ) : Bool :=
    dayjs.isBefore next now || (dayjs.isSameDay next now && decide (dayjs.hour now ≥ sub.hour))
  match sub.frequency with
  | .daily => dayjs.utc (if dayjs.hour now ≥ sub.hour then dayjs.addDay next else next)
  | .weekly =>
      -- dayOfWeek: 1=Monday, 7=Sunday (convert to dayjs: 0=Sunday, 1=Monday, etc.)
      let targetDay := if sub.dayOfWeek = some 7 then some 0 else sub.dayOfWeek
      let next := dayjs.day next targetDay
      dayjs.utc (if passed next then dayjs.addWeek next else next)
  | .monthly =>
      let next := dayjs.date next sub.dayOfMonth
      dayjs.utc (if passed next then dayjs.addMonth next else next)

/-- The row `markSent` inserts. -/
def sentRow (existing : Subscription) (now : Int) : Subscription :=
  { existing with
    lastSentAt := some now, lastSendStatus := .success, lastError := "",
    nextSendAt := some (calculateNextSendAt dayjs existing now), consecutiveFailures := 0,
    updatedAt := now }

def markSent (s : SchedulerStore) (id : String) (answer : Except String Nat) :
    Except String SchedulerStore :=
  match answer with
  | .error e => .error e
  | .ok delay =>
      match getById s.rows id with
      | none => .error "Subscription not found"
      | some existing => .ok (s.insert (sentRow dayjs existing (s.clock + delay)) delay)

/-- The row `markFailed` inserts; the fifth failure in a row disables the subscription. -/
def failedRow (existing : Subscription) (error : String) (now : Int) : Subscription :=
  let consecutiveFailures := existing.consecutiveFailures + 1
  { existing with
    lastSendStatus := .failed, lastError := error, consecutiveFailures,
    status := if consecutiveFailures ≥ 5 then .disabled else existing.status, updatedAt := now }

def markFailed (s : SchedulerStore) (id error : String) (answer : Except String Nat) :
    Except String SchedulerStore :=
  match answer with
  | .error e => .error e
  | .ok delay =>
      match getById s.rows id with
      | none => .error "Subscription not found"
      | some existing => .ok (s.insert (failedRow existing error (s.clock + delay)) delay)

/-! ### The scheduler -/

/-- Nobody else has processed the subscription since it was found. -/
def isCurrent (rows : List Subscription) (sub : Subscription) : Bool :=
  (getById rows sub.id).any fun current =>
    current.status = .active ∧ current.nextSendAt = sub.nextSendAt

/-- The report, or the error that was thrown on the way to it. -/
def prepare (sub : Subscription) (h : Handling) : Except String Mail := do
  match ← h.user with
  | none => .error s!"User not found: {sub.userId}"
  | some email =>
      if email = "" then .error s!"User {sub.userId} has no email address"
      else
        let available ← h.smtpAvailable
        if available = false then
          .error ("SMTP not configured. Please configure SMTP settings in workspace or set " ++
            "global SMTP environment variables.")
        else
          let dateRangeLabel ← h.generate
          let html ← h.renderEmail
          .ok ⟨email, s!"{sub.name} - {dateRangeLabel}", html⟩

def SchedulerStore.mailed (s : SchedulerStore) (sub : Subscription) (mail : Mail) :
    SchedulerStore :=
  { s with sent := s.sent ++ [⟨sub.id, sub.nextSendAt, mail⟩] }

/-- The `try` of `processSubscription`. -/
def trySend (s : SchedulerStore) (sub : Subscription) (h : Handling) :
    SchedulerStore × Except String Unit :=
  match h.refetch with
  | .error e => (s, .error e)
  | .ok _ =>
      if isCurrent s.rows sub = false then (s, .ok ())
      else
        match prepare sub h with
        | .error e => (s, .error e)
        | .ok mail =>
            match h.sendReport with
            | .error e => (s, .error e)
            | .ok _ =>
                match markSent dayjs (s.mailed sub mail) sub.id h.markSent with
                | .error e => (s.mailed sub mail, .error e)
                | .ok s' => (s', h.auditSent)

def processSubscription (s : SchedulerStore) (sub : Subscription) (h : Handling) :
    SchedulerStore × Except String Unit :=
  match trySend dayjs s sub h with
  | (s', .ok _) => (s', .ok ())
  | (s', .error e) =>
      match markFailed s' sub.id e h.markFailed with
      | .error e' => (s', .error e')
      | .ok s'' => (s'', h.auditFailed)

/-- The loop over what is due, with the subscriptions it has come to. -/
def processAll (handling : Nat → Handling) :
    Nat → List Subscription → SchedulerStore → SchedulerStore × List Subscription
  | _, [], s => (s, [])
  | i, sub :: rest, s =>
      match processSubscription dayjs s sub (handling i) with
      | (s', .error _) => (s', [sub])
      | (s', .ok _) =>
          ((processAll handling (i + 1) rest s').1,
            sub :: (processAll handling (i + 1) rest s').2)

def processScheduledReports (enabled : Bool) (s : SchedulerStore) (t : Tick) : SchedulerStore :=
  if enabled = false then s
  else
    let now := s.clock + t.wait
    let due := findDue s.rows now
    let (s', handled) := processAll dayjs t.handling 0 due { s with clock := now }
    { s' with ticks := s'.ticks ++ [⟨due, handled⟩] }

def schedulerStep (enabled : Bool) (s : SchedulerStore) (t : Tick) : Option SchedulerStore :=
  some (processScheduledReports dayjs enabled s t)

end Service

/-- Any table, and no tick yet. -/
def SchedulerStore.init (rows : List Subscription) (clock : Int) : SchedulerStore :=
  ⟨rows, clock, [], []⟩

/-! ### The claim and its condition -/

/-- No subscription was mailed twice for one slot, and every tick came to all that was due. -/
structure OncePerSlot (s : SchedulerStore) : Prop where
  once : (s.sent.map fun e => (e.id, e.slot)).Nodup
  handled : ∀ t ∈ s.ticks, t.handled = t.due

instance (s : SchedulerStore) : Decidable (OncePerSlot s) :=
  decidable_of_iff ((s.sent.map fun e => (e.id, e.slot)).Nodup ∧ ∀ t ∈ s.ticks, t.handled = t.due)
    ⟨fun h => ⟨h.1, h.2⟩, fun h => ⟨h.once, h.handled⟩⟩

def succeeds {α : Type} : Except String α → Bool
  | .ok _ => true
  | .error _ => false

section Condition

variable {δ : Type} (dayjs : Dayjs δ)

/-- The mail of the subscription goes out. -/
def goesOut (s : SchedulerStore) (sub : Subscription) (h : Handling) : Bool :=
  succeeds h.refetch && isCurrent s.rows sub && succeeds (prepare sub h) && succeeds h.sendReport

/-- A mail that goes out is marked as sent, with a slot that is still to come. -/
def Marks (s : SchedulerStore) (sub : Subscription) (h : Handling) : Prop :=
  goesOut s sub h = true → ∃ delay, h.markSent = .ok delay ∧
    ∀ current ∈ getById s.rows sub.id,
      s.clock + delay < calculateNextSendAt dayjs current (s.clock + delay)

/-- Something fails before the mail goes out, or the audit log after it. -/
def fails (s : SchedulerStore) (sub : Subscription) (h : Handling) : Bool :=
  !succeeds h.refetch || isCurrent s.rows sub &&
    (!succeeds (prepare sub h) || !succeeds h.sendReport || !succeeds h.auditSent)

/-- A failure is recorded. -/
def Recovers (s : SchedulerStore) (sub : Subscription) (h : Handling) : Prop :=
  fails s sub h = true → succeeds h.markFailed = true ∧ succeeds h.auditFailed = true

/-- Every mail of the loop is marked, and every failure but the last one's is recorded. -/
def CleanLoop (handling : Nat → Handling) : Nat → List Subscription → SchedulerStore → Prop
  | _, [], _ => True
  | i, sub :: rest, s =>
      Marks dayjs s sub (handling i) ∧ (rest ≠ [] → Recovers s sub (handling i)) ∧
        CleanLoop handling (i + 1) rest (processSubscription dayjs s sub (handling i)).1

/-- The loop of the tick is clean. -/
def CleanTick (enabled : Bool) (s : SchedulerStore) (t : Tick) : Prop :=
  enabled = true → CleanLoop dayjs t.handling 0 (findDue s.rows (s.clock + t.wait))
    { s with clock := s.clock + t.wait }

end Condition

/-! ### The table -/

/-- `generateId` returns a UUID, so the rows of one id are the rows of one subscription. -/
def OneKey (rows : List Subscription) : Prop :=
  ∀ r ∈ rows, ∀ r' ∈ rows, r.id = r'.id → r.key = r'.key

theorem id_of_key {r r' : Subscription} (h : r.key = r'.key) : r.id = r'.id :=
  congrArg (fun key => key.2.2) h

/-- The row in force of a subscription. -/
def inForce (sub : Subscription) (rows : List Subscription) : Option Subscription :=
  survivor Subscription.key Subscription.updatedAt sub.key rows

theorem getById_eq_filter {rows : List Subscription} (hone : OneKey rows) {sub : Subscription}
    (hsub : sub ∈ rows) :
    getById rows sub.id = (inForce sub rows).filter fun r => r.status ≠ .disabled := by
  have hsplit : (final Subscription.key Subscription.updatedAt rows).filter
      (fun r => decide (r.id = sub.id ∧ r.status ≠ .disabled)) =
      ((final Subscription.key Subscription.updatedAt rows).filter fun r => r.id = sub.id).filter
        fun r => r.status ≠ .disabled := by
    rw [List.filter_filter]
    exact List.filter_congr fun _ _ => by rw [Bool.decide_and, Bool.and_comm]
  have hpick : ∀ r ∈ rows, decide (r.id = sub.id) = true ↔ r.key = sub.key := by
    intro r hr
    rw [decide_eq_true_iff]
    exact ⟨fun hid => hone r hr sub hsub hid, id_of_key⟩
  show ((final _ _ rows).filter _).head? = _
  rw [hsplit, final_filter_eq_survivor _ _ hpick]
  show ((inForce sub rows).toList.filter _).head? = _
  rw [← Option.toList_filter, Option.head?_toList]

theorem mem_of_getById {rows : List Subscription} {id : String} {sub : Subscription}
    (h : getById rows id = some sub) : sub ∈ rows ∧ sub.id = id ∧ sub.status ≠ .disabled := by
  have hmem := List.mem_filter.mp (List.mem_of_mem_head? h)
  exact ⟨final_subset _ _ _ hmem.1, of_decide_eq_true hmem.2⟩

theorem getById_eq_none {rows : List Subscription} {id : String} (h : ∀ r ∈ rows, r.id ≠ id) :
    getById rows id = none := by
  cases hget : getById rows id with
  | none => rfl
  | some sub => exact absurd (mem_of_getById hget).2.1 (h sub (mem_of_getById hget).1)

theorem OneKey.append {rows : List Subscription} (h : OneKey rows) {sub x : Subscription}
    (hsub : sub ∈ rows) (hkey : x.key = sub.key) : OneKey (rows ++ [x]) := by
  have hcases : ∀ {r}, r ∈ rows ++ [x] → ∃ r₀ ∈ rows, r₀.key = r.key := by
    intro r hr
    rcases List.mem_append.mp hr with hr | hr
    · exact ⟨r, hr, rfl⟩
    · rw [List.mem_singleton.mp hr]
      exact ⟨sub, hsub, hkey.symm⟩
  intro r hr r' hr' hid
  obtain ⟨r₀, hr₀, hk⟩ := hcases hr
  obtain ⟨r₁, hr₁, hk'⟩ := hcases hr'
  rw [← hk, ← hk']
  exact h r₀ hr₀ r₁ hr₁ ((id_of_key hk).trans (hid.trans (id_of_key hk').symm))

/-- An insert of the newest row of a subscription is what is read of it from then on. -/
theorem getById_append {rows : List Subscription} (hone : OneKey rows) {sub x : Subscription}
    (hsub : sub ∈ rows) (hkey : x.key = sub.key) (hnew : ∀ r ∈ rows, r.updatedAt ≤ x.updatedAt) :
    getById (rows ++ [x]) x.id = if x.status = .disabled then none else some x := by
  have hx : x ∈ rows ++ [x] := List.mem_append_right _ (List.mem_singleton.mpr rfl)
  rw [getById_eq_filter (hone.append hsub hkey) hx]
  have hsurvives : inForce x (rows ++ [x]) = some x := by
    obtain ⟨m, hm⟩ := Option.isSome_iff_exists.mp
      ((survivor_isSome_iff Subscription.key Subscription.updatedAt).mpr ⟨sub, hsub, rfl⟩)
    have hmx : survivor Subscription.key Subscription.updatedAt x.key rows = some m := hkey ▸ hm
    have hle := hnew m (survivor_key _ _ hmx).1
    show survivor _ _ _ _ = _
    rw [survivor_append_of_some _ _ hmx rfl, if_neg (not_lt.mpr hle)]
  rw [hsurvives]
  by_cases hstatus : x.status = .disabled
  · rw [if_pos hstatus, Option.filter_some, if_neg (by simp [hstatus])]
  · rw [if_neg hstatus, Option.filter_some, if_pos (by simp [hstatus])]

theorem getById_append_of_ne {rows : List Subscription} (hone : OneKey rows)
    {sub x : Subscription} {id : String} (hsub : sub ∈ rows) (hkey : x.key = sub.key)
    (hne : id ≠ x.id) : getById (rows ++ [x]) id = getById rows id := by
  by_cases hex : ∃ r ∈ rows, r.id = id
  · obtain ⟨r, hr, rfl⟩ := hex
    rw [getById_eq_filter (hone.append hsub hkey) (List.mem_append_left _ hr),
      getById_eq_filter hone hr]
    refine congrArg (Option.filter _) (survivor_append_of_ne _ _ fun hk => ?_)
    exact hne (id_of_key hk).symm
  · have hnone : ∀ r ∈ rows, r.id ≠ id := fun r hr hid => hex ⟨r, hr, hid⟩
    rw [getById_eq_none hnone]
    refine getById_eq_none fun r hr => ?_
    rcases List.mem_append.mp hr with hr | hr
    · exact hnone r hr
    · rw [List.mem_singleton.mp hr]
      exact hne.symm

/-! ### The invariant -/

/-- What has been mailed was for slots that the subscriptions have left. -/
structure Ok (s : SchedulerStore) : Prop where
  oneKey : OneKey s.rows
  past : ∀ r ∈ s.rows, r.updatedAt ≤ s.clock
  moved : ∀ e ∈ s.sent, ∃ slot, e.slot = some slot ∧ ∀ r, getById s.rows e.id = some r →
    r.status = .active → ∀ next ∈ r.nextSendAt, slot < next
  oncePerSlot : OncePerSlot s

/-- The subscription is due, and its row is the one that was found. -/
structure Waiting (s : SchedulerStore) (sub : Subscription) : Prop where
  found : getById s.rows sub.id = some sub
  active : sub.status = .active
  due : ∃ slot, sub.nextSendAt = some slot ∧ slot ≤ s.clock

namespace Ok

variable {s : SchedulerStore} {existing x : Subscription} {delay : Nat}

/-- A newer row of a subscription, in the slot it was in unless it is no longer active. -/
theorem insert (h : Ok s) (hfound : getById s.rows x.id = some existing)
    (hkey : x.key = existing.key) (hnow : x.updatedAt = s.clock + delay)
    (hslot : x.status = .active → existing.status = .active ∧ x.nextSendAt = existing.nextSendAt) :
    Ok (s.insert x delay) := by
  have hmem := (mem_of_getById hfound).1
  have hpast : ∀ r ∈ s.rows, r.updatedAt ≤ x.updatedAt := fun r hr => by
    have := h.past r hr
    omega
  refine ⟨h.oneKey.append hmem hkey, ?_, ?_, h.oncePerSlot.once, h.oncePerSlot.handled⟩
  · intro r hr
    show r.updatedAt ≤ s.clock + delay
    rcases List.mem_append.mp hr with hr | hr
    · have := h.past r hr
      omega
    · rw [List.mem_singleton.mp hr]
      exact le_of_eq hnow
  · intro e he
    obtain ⟨slot, hslot_e, hmoved⟩ := h.moved e he
    refine ⟨slot, hslot_e, fun r hr hactive next hnext => ?_⟩
    have hr' : getById (s.rows ++ [x]) e.id = some r := hr
    by_cases hid : e.id = x.id
    · rw [hid, getById_append h.oneKey hmem hkey hpast] at hr'
      obtain ⟨-, hr'⟩ := Option.ite_none_left_eq_some.mp hr'
      obtain rfl := Option.some.inj hr'
      obtain ⟨hactive', hsame⟩ := hslot hactive
      exact hmoved existing (hid ▸ hfound) hactive' next (hsame ▸ hnext)
    · rw [getById_append_of_ne h.oneKey hmem hkey hid] at hr'
      exact hmoved r hr' hactive next hnext

/-- A mail, and a row with a slot that is still to come. -/
theorem mailed (h : Ok s) {sub : Subscription} (hw : Waiting s sub) (mail : Mail)
    (hkey : x.key = sub.key) (hnow : x.updatedAt = s.clock + delay)
    (hnext : ∀ next ∈ x.nextSendAt, s.clock < next) : Ok ((s.mailed sub mail).insert x delay) := by
  have hmem := (mem_of_getById hw.found).1
  have hid : x.id = sub.id := id_of_key hkey
  have hpast : ∀ r ∈ s.rows, r.updatedAt ≤ x.updatedAt := fun r hr => by
    have := h.past r hr
    omega
  obtain ⟨slot, hslot, hdue⟩ := hw.due
  -- what is read of the subscription from now on is the new row
  have hnew : ∀ r, getById (s.rows ++ [x]) x.id = some r → r = x := by
    intro r hr
    rw [getById_append h.oneKey hmem hkey hpast] at hr
    exact (Option.some.inj (Option.ite_none_left_eq_some.mp hr).2).symm
  refine ⟨h.oneKey.append hmem hkey, ?_, ?_, ?_, h.oncePerSlot.handled⟩
  · intro r hr
    show r.updatedAt ≤ s.clock + delay
    rcases List.mem_append.mp hr with hr | hr
    · have := h.past r hr
      omega
    · rw [List.mem_singleton.mp hr]
      exact le_of_eq hnow
  · intro e he
    rcases List.mem_append.mp he with he | he
    · obtain ⟨slot', hslot', hmoved⟩ := h.moved e he
      refine ⟨slot', hslot', fun r hr hactive next hr' => ?_⟩
      have hget : getById (s.rows ++ [x]) e.id = some r := hr
      by_cases heid : e.id = x.id
      · obtain rfl := hnew r (heid ▸ hget)
        have hbefore := hmoved sub (heid.trans hid ▸ hw.found) hw.active slot hslot
        have hafter := hnext next hr'
        omega
      · rw [getById_append_of_ne h.oneKey hmem hkey heid] at hget
        exact hmoved r hget hactive next hr'
    · obtain rfl := List.mem_singleton.mp he
      refine ⟨slot, hslot, fun r hr _ next hr' => ?_⟩
      have hget : getById (s.rows ++ [x]) sub.id = some r := hr
      obtain rfl := hnew r (hid ▸ hget)
      exact lt_of_le_of_lt hdue (hnext next hr')
  · show ((s.sent ++ [Sent.mk sub.id sub.nextSendAt mail]).map fun e => (e.id, e.slot)).Nodup
    rw [List.map_append]
    refine List.Nodup.append h.oncePerSlot.once (List.nodup_singleton _) ?_
    intro pair hpair hpair'
    obtain ⟨e, he, rfl⟩ := List.mem_map.mp hpair
    obtain ⟨heid, heslot⟩ := Prod.mk.inj (List.mem_singleton.mp hpair')
    obtain ⟨slot', hslot', hmoved⟩ := h.moved e he
    have hlt := hmoved sub (heid ▸ hw.found) hw.active slot hslot
    have heq : some slot' = some slot := hslot'.symm.trans (heslot.trans hslot)
    obtain rfl := Option.some.inj heq
    exact lt_irrefl _ hlt

end Ok

/-- Nothing but one subscription has changed, and time may have gone by. -/
structure Frames (s s' : SchedulerStore) (id : String) : Prop where
  clock : s.clock ≤ s'.clock
  ticks : s'.ticks = s.ticks
  others : ∀ id', id' ≠ id → getById s'.rows id' = getById s.rows id'

theorem Frames.refl (s : SchedulerStore) (id : String) : Frames s s id :=
  ⟨le_refl _, rfl, fun _ _ => rfl⟩

theorem Frames.trans {s t u : SchedulerStore} {id : String} (h : Frames s t id)
    (h' : Frames t u id) : Frames s u id :=
  ⟨h.clock.trans h'.clock, h'.ticks.trans h.ticks,
    fun id' hne => (h'.others id' hne).trans (h.others id' hne)⟩

/-- An insert changes what is read of its own subscription alone. -/
theorem Ok.frames_insert {s : SchedulerStore} (h : Ok s) {existing x : Subscription}
    {id : String} (hfound : getById s.rows id = some existing) (hkey : x.key = existing.key)
    (delay : Nat) : Frames s (s.insert x delay) id := by
  obtain ⟨hmem, hid, -⟩ := mem_of_getById hfound
  refine ⟨?_, rfl, fun id' hne => ?_⟩
  · show s.clock ≤ s.clock + delay
    omega
  · refine getById_append_of_ne h.oneKey hmem hkey fun heq => hne ?_
    exact heq.trans ((id_of_key hkey).trans hid)

section Loop

variable {δ : Type} {dayjs : Dayjs δ} {s : SchedulerStore} {sub : Subscription} {h : Handling}

/-- A subscription that is marked as failed stays in its slot. -/
theorem markFailed_ok {s' : SchedulerStore} {id error : String} {answer : Except String Nat}
    (hok : Ok s) (hm : markFailed s id error answer = .ok s') : Ok s' ∧ Frames s s' id := by
  cases answer with
  | error e => exact nomatch hm
  | ok delay =>
      unfold markFailed at hm
      dsimp only at hm
      cases hfound : getById s.rows id with
      | none =>
          rw [hfound] at hm
          exact nomatch hm
      | some existing =>
          rw [hfound] at hm
          obtain rfl := Except.ok.inj hm
          have hread : getById s.rows existing.id = some existing := by
            rw [(mem_of_getById hfound).2.1]
            exact hfound
          refine ⟨Ok.insert (x := failedRow existing error (s.clock + delay)) hok hread rfl rfl
            fun hactive => ⟨?_, rfl⟩, hok.frames_insert (x := failedRow _ _ _) hfound rfl delay⟩
          have hstatus : (if existing.consecutiveFailures + 1 ≥ 5 then SubscriptionStatus.disabled
              else existing.status) = .active := hactive
          split at hstatus
          · exact nomatch hstatus
          · exact hstatus

theorem markFailed_succeeds {id error : String} {answer : Except String Nat}
    {existing : Subscription} (hfound : getById s.rows id = some existing)
    (hanswer : succeeds answer = true) : ∃ s', markFailed s id error answer = .ok s' := by
  cases answer with
  | error e => exact nomatch hanswer
  | ok delay =>
      refine ⟨s.insert (failedRow existing error (s.clock + delay)) delay, ?_⟩
      unfold markFailed
      dsimp only
      rw [hfound]

/-- What the `try` leaves: what was mailed is marked, the subscription can still be read, and
an error is one of those that `fails` counts. -/
structure Tried (s : SchedulerStore) (sub : Subscription) (h : Handling)
    (r : SchedulerStore × Except String Unit) : Prop where
  ok : Ok r.1
  frames : Frames s r.1 sub.id
  found : ∃ existing, getById r.1.rows sub.id = some existing
  failed : succeeds r.2 = false → fails s sub h = true

theorem isCurrent_of_waiting (hw : Waiting s sub) : isCurrent s.rows sub = true := by
  unfold isCurrent
  rw [hw.found]
  exact decide_eq_true ⟨hw.active, rfl⟩

theorem trySend_tried (hok : Ok s) (hw : Waiting s sub) (hmarks : Marks dayjs s sub h) :
    Tried s sub h (trySend dayjs s sub h) := by
  have hcurrent := isCurrent_of_waiting hw
  have hkept : ∀ r : Except String Unit, (succeeds r = false → fails s sub h = true) →
      Tried s sub h (s, r) := fun r hr => ⟨hok, .refl s sub.id, ⟨sub, hw.found⟩, hr⟩
  unfold trySend
  cases hrefetch : h.refetch with
  | error e => exact hkept _ fun _ => by simp [fails, hrefetch, succeeds]
  | ok u =>
      dsimp only
      rw [hcurrent, if_neg (by simp)]
      cases hprepare : prepare sub h with
      | error e => exact hkept _ fun _ => by simp [fails, hcurrent, hprepare, succeeds]
      | ok mail =>
          dsimp only
          cases hsend : h.sendReport with
          | error e => exact hkept _ fun _ => by simp [fails, hcurrent, hsend, succeeds]
          | ok u' =>
              dsimp only
              -- the mail has gone out
              obtain ⟨delay, hmark, hlater⟩ :=
                hmarks (by simp [goesOut, hrefetch, hcurrent, hprepare, hsend, succeeds])
              have hnext := hlater sub hw.found
              have hmarked : markSent dayjs (s.mailed sub mail) sub.id h.markSent =
                  .ok ((s.mailed sub mail).insert (sentRow dayjs sub (s.clock + delay)) delay) := by
                rw [hmark]
                unfold markSent
                dsimp only
                rw [show getById (s.mailed sub mail).rows sub.id = some sub from hw.found]
                rfl
              rw [hmarked]
              refine ⟨hok.mailed hw mail rfl rfl ?_, ?_, ?_, ?_⟩
              · intro next hnext'
                obtain rfl := Option.some.inj hnext'
                omega
              · have hframes := hok.frames_insert (x := sentRow dayjs sub (s.clock + delay))
                  hw.found rfl delay
                exact ⟨hframes.clock, hframes.ticks, hframes.others⟩
              · refine ⟨sentRow dayjs sub (s.clock + delay), ?_⟩
                have hread := getById_append (x := sentRow dayjs sub (s.clock + delay)) hok.oneKey
                  (mem_of_getById hw.found).1 rfl fun r hr => ?_
                · show getById (s.rows ++ _) sub.id = _
                  refine hread.trans (if_neg ?_)
                  show sub.status ≠ _
                  rw [hw.active]
                  exact fun hc => nomatch hc
                · have := hok.past r hr
                  show r.updatedAt ≤ s.clock + delay
                  omega
              · intro haudit
                simp [fails, hcurrent, haudit]

/-- Handling a subscription keeps the invariant and the other subscriptions, and does not
throw when it recovers. -/
theorem processSubscription_spec (hok : Ok s) (hw : Waiting s sub) (hmarks : Marks dayjs s sub h) :
    Ok (processSubscription dayjs s sub h).1 ∧
      Frames s (processSubscription dayjs s sub h).1 sub.id ∧
      (Recovers s sub h → succeeds (processSubscription dayjs s sub h).2 = true) := by
  have htried := trySend_tried hok hw hmarks
  unfold processSubscription
  rcases htry : trySend dayjs s sub h with ⟨s', _ | u⟩
  · rename_i e
    rw [htry] at htried
    obtain ⟨existing, hfound⟩ := htried.found
    dsimp only
    cases hmark : markFailed s' sub.id e h.markFailed with
    | error e' =>
        refine ⟨htried.ok, htried.frames, fun hrecovers => ?_⟩
        obtain ⟨hsucceeds, -⟩ := hrecovers (htried.failed rfl)
        obtain ⟨s'', hs''⟩ : ∃ s'', markFailed s' sub.id e h.markFailed = .ok s'' :=
          markFailed_succeeds hfound hsucceeds
        exact nomatch hmark.symm.trans hs''
    | ok s'' =>
        obtain ⟨hok', hframes'⟩ := markFailed_ok htried.ok hmark
        exact ⟨hok', htried.frames.trans hframes',
          fun hrecovers => (hrecovers (htried.failed rfl)).2⟩
  · rw [htry] at htried
    exact ⟨htried.ok, htried.frames, fun _ => rfl⟩

/-! ### The loop and the runs -/

theorem waiting_of_frames {s' : SchedulerStore} {id : String} (hw : Waiting s sub)
    (hframes : Frames s s' id) (hne : sub.id ≠ id) : Waiting s' sub := by
  obtain ⟨slot, hslot, hdue⟩ := hw.due
  exact ⟨(hframes.others sub.id hne).trans hw.found, hw.active, slot, hslot,
    hdue.trans hframes.clock⟩

/-- **A clean loop keeps the invariant and comes to every subscription.** -/
theorem processAll_spec {handling : Nat → Handling} :
    ∀ {due : List Subscription} {i : Nat} {s : SchedulerStore}, Ok s →
      (∀ sub ∈ due, Waiting s sub) → (due.map (·.id)).Nodup →
      CleanLoop dayjs handling i due s →
      Ok (processAll dayjs handling i due s).1 ∧ (processAll dayjs handling i due s).2 = due := by
  intro due
  induction due with
  | nil => intro i s hok _ _ _; exact ⟨hok, rfl⟩
  | cons sub rest ih =>
      intro i s hok hwaiting hnodup hclean
      obtain ⟨hmarks, hrecovers, hrest⟩ := hclean
      obtain ⟨hfresh, hnodup'⟩ := List.nodup_cons.mp hnodup
      obtain ⟨hok', hframes, hthrows⟩ :=
        processSubscription_spec hok (hwaiting sub List.mem_cons_self) hmarks
      have hwaiting' : ∀ other ∈ rest,
          Waiting (processSubscription dayjs s sub (handling i)).1 other := by
        intro other hother
        refine waiting_of_frames (hwaiting other (List.mem_cons_of_mem _ hother)) hframes ?_
        intro heq
        exact hfresh (List.mem_map.mpr ⟨other, hother, heq⟩)
      obtain ⟨hokAll, hhandled⟩ := ih (i := i + 1) hok' hwaiting' hnodup' hrest
      unfold processAll
      rcases hprocess : processSubscription dayjs s sub (handling i) with ⟨s', _ | u⟩
      · rename_i e
        rw [hprocess] at hok' hthrows
        -- only the last subscription may throw
        by_cases hlast : rest = []
        · subst hlast
          exact ⟨hok', rfl⟩
        · exact nomatch hthrows (hrecovers hlast)
      · rw [hprocess] at hokAll hhandled
        exact ⟨hokAll, congrArg (sub :: ·) hhandled⟩

/-- What is due is waiting, and is found once. -/
theorem findDue_waiting {rows : List Subscription} (hok : Ok s) {now : Int}
    (hrows : s.rows = rows) (hclock : s.clock = now) : ∀ sub ∈ findDue rows now, Waiting s sub := by
  subst hrows hclock
  intro sub hsub
  rw [findDue, List.mem_insertionSort, List.mem_filter] at hsub
  obtain ⟨hfinal, hdue⟩ := hsub
  obtain ⟨hslot, hactive⟩ := of_decide_eq_true hdue
  obtain ⟨slot, hmem, hle⟩ := (Option.any_eq_true _ _).mp hslot
  have hin := (mem_final_iff Subscription.key Subscription.updatedAt).mp hfinal
  refine ⟨?_, hactive, slot, hmem, of_decide_eq_true hle⟩
  rw [getById_eq_filter hok.oneKey (survivor_key _ _ hin).1]
  show Option.filter _ (survivor _ _ _ _) = _
  rw [hin, Option.filter_some, if_pos (by simp [hactive])]

theorem findDue_nodup {rows : List Subscription} (hone : OneKey rows) (now : Int) :
    ((findDue rows now).map (·.id)).Nodup := by
  have hperm : ((findDue rows now).map (·.id)).Perm
      (((final Subscription.key Subscription.updatedAt rows).filter (isDue now)).map (·.id)) :=
    (List.perm_insertionSort _ _).map _
  rw [hperm.nodup_iff]
  have hkeys : ((final Subscription.key Subscription.updatedAt rows).map (·.key)).Nodup := by
    rw [final_map_key]
    exact List.nodup_dedup _
  have hsub : ∀ r ∈ (final Subscription.key Subscription.updatedAt rows).filter (isDue now),
      r ∈ rows := fun r hr => final_subset _ _ _ (List.mem_of_mem_filter hr)
  have hkeys' : (((final Subscription.key Subscription.updatedAt rows).filter
      (isDue now)).map (·.key)).Nodup := hkeys.sublist (List.filter_sublist.map _)
  refine List.Nodup.map_on ?_ (List.Nodup.of_map _ hkeys')
  intro a ha b hb hid
  exact List.inj_on_of_nodup_map hkeys' ha hb (hone a (hsub a ha) b (hsub b hb) hid)

theorem ok_tick {enabled : Bool} {t : Tick} (hok : Ok s) (hclean : CleanTick dayjs enabled s t) :
    Ok (processScheduledReports dayjs enabled s t) := by
  unfold processScheduledReports
  split
  · exact hok
  · rename_i henabled
    have hok' : Ok { s with clock := s.clock + t.wait } := by
      refine ⟨hok.oneKey, fun r hr => ?_, hok.moved, hok.oncePerSlot.once, hok.oncePerSlot.handled⟩
      have := hok.past r hr
      show r.updatedAt ≤ s.clock + t.wait
      omega
    obtain ⟨hend, hhandled⟩ := processAll_spec hok' (findDue_waiting hok' rfl rfl)
      (findDue_nodup hok.oneKey _) (hclean (by simpa using henabled))
    refine ⟨hend.oneKey, hend.past, hend.moved, hend.oncePerSlot.once, fun record hrecord => ?_⟩
    rcases List.mem_append.mp hrecord with hold | hnew
    · exact hend.oncePerSlot.handled record hold
    · rw [List.mem_singleton.mp hnew]
      exact hhandled

/-- **In a run of clean ticks no subscription is mailed twice for one slot, and every tick comes
to all that is due.** -/
theorem oncePerSlot_of_clean (enabled : Bool) (rows : List Subscription) (clock : Int)
    (hone : OneKey rows) (hpast : ∀ r ∈ rows, r.updatedAt ≤ clock) (ticks : List Tick)
    (hclean : Machine.Meets (schedulerStep dayjs enabled) (CleanTick dayjs enabled)
      (SchedulerStore.init rows clock) ticks) (s : SchedulerStore)
    (hrun : Machine.exec (schedulerStep dayjs enabled) (SchedulerStore.init rows clock) ticks =
      some s) : OncePerSlot s := by
  have hinit : Ok (SchedulerStore.init rows clock) :=
    ⟨hone, hpast, fun _ he => absurd he List.not_mem_nil, List.nodup_nil,
      fun _ ht => absurd ht List.not_mem_nil⟩
  refine (Machine.exec_invariant_of_meets (fun s t s' hs hC hstep => ?_) hinit hclean hrun).oncePerSlot
  obtain rfl := Option.some.inj hstep
  exact ok_tick hs hC

end Loop

namespace ReportExample

/-- `dayjs` in UTC, for daily reports. -/
def utc : Dayjs Int where
  tz now _ := now
  hour d := (d / 3600000 % 24).toNat
  atHour d hour := d / 86400000 * 86400000 + 3600000 * hour
  day d _ := d
  date d _ := d
  addDay d := d + 86400000
  addWeek d := d + 604800000
  addMonth d := d + 2592000000
  isBefore a b := a < b
  isSameDay a b := a / 86400000 = b / 86400000
  utc d := d

/-- A daily report, due at eight. -/
def subscription (id : String) : Subscription where
  id := id
  userId := "u1"
  workspaceId := "acme"
  name := "Daily"
  frequency := .daily
  dayOfWeek := none
  dayOfMonth := none
  hour := 8
  timezone := "UTC"
  status := .active
  lastSentAt := none
  lastSendStatus := .pending
  lastError := ""
  nextSendAt := some 28800000
  consecutiveFailures := 0
  updatedAt := 0

def succeeding : Handling where
  refetch := .ok ()
  user := .ok (some "ana@acme.io")
  smtpAvailable := .ok true
  generate := .ok "Yesterday"
  renderEmail := .ok "<p></p>"
  sendReport := .ok ()
  markSent := .ok 10
  auditSent := .ok ()
  markFailed := .ok 10
  auditFailed := .ok ()

def eightOClock (handling : Nat → Handling) : Tick := ⟨28800000, handling⟩

def nextTick : Tick := ⟨900000, fun _ => succeeding⟩

/-- `markSent` fails once: the next tick mails the same report again. -/
def unmarked : Tick := eightOClock fun _ => { succeeding with markSent := .error "timeout" }

/-- The first report fails, and so does `markFailed`: the second one is not come to. -/
def unrecorded : Tick := eightOClock fun i =>
  if i = 0 then
    { succeeding with generate := .error "query failed", markFailed := .error "timeout" }
  else succeeding

theorem reports_repeat_and_stop :
    (∃ s, Machine.exec (schedulerStep utc true)
        (SchedulerStore.init [subscription "r1"] 0) [unmarked, nextTick] = some s ∧
      ¬OncePerSlot s) ∧
    ∃ s, Machine.exec (schedulerStep utc true)
        (SchedulerStore.init [subscription "r1", subscription "r2"] 0) [unrecorded] = some s ∧
      ¬OncePerSlot s :=
  ⟨⟨_, rfl, by decide⟩, _, rfl, by decide⟩

/-- The report is mailed and marked. -/
theorem report_once : ∃ s, Machine.exec (schedulerStep utc true)
    (SchedulerStore.init [subscription "r1"] 0) [eightOClock fun _ => succeeding] = some s ∧
      s.sent.length = 1 ∧ OncePerSlot s := by
  refine ⟨_, rfl, by decide, @oncePerSlot_of_clean Int utc true [subscription "r1"] 0
    (by unfold OneKey; decide) (by decide) [eightOClock fun _ => succeeding]
    ⟨fun _ => ?_, fun _ _ => trivial⟩ _ rfl⟩
  have hdue : findDue (SchedulerStore.init [subscription "r1"] 0).rows (0 + 28800000) =
      [subscription "r1"] := by decide
  show CleanLoop utc _ 0 (findDue _ (0 + 28800000)) _
  rw [hdue]
  refine ⟨fun _ => ⟨10, rfl, by decide⟩, fun hlast => absurd rfl hlast, trivial⟩

end ReportExample

end Veridian.Subscriptions
