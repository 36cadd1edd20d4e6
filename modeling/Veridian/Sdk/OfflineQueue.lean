/-
The queue of payloads that could not be sent.

`handleOnline` empties the queue, sends what it held one payload after the other, and puts
back what failed in front of whatever was queued meanwhile.  Between two sends anything may
happen, so a flush is a state here and the answer to a send an event.

Beside the sender runs a record of the flush: what it found, how each send ended, and what
was queued since.
-/
import Mathlib.Data.List.DropRight
import Veridian.Lib.Machine

namespace Veridian.OfflineQueue

open Machine

/-! ### The newest of a list -/

section Newest

variable {α : Type*} {n : Nat}

theorem rtake_append_of_le {as bs : List α} (h : n ≤ bs.length) :
    (as ++ bs).rtake n = bs.rtake n := by
  unfold List.rtake
  rw [List.length_append, Nat.add_sub_assoc h, List.drop_append]
  simp

theorem rtake_of_length_le {as : List α} (h : as.length ≤ n) : as.rtake n = as := by
  unfold List.rtake
  rw [Nat.sub_eq_zero_of_le h, List.drop_zero]

/-- A long list is what is dropped of it and `n` more. -/
theorem eq_append_rtake {as : List α} (h : n ≤ as.length) :
    ∃ dropped, as = dropped ++ as.rtake n ∧ (as.rtake n).length = n := by
  refine ⟨as.take (as.length - n), (List.take_append_drop _ _).symm, ?_⟩
  show (as.drop (as.length - n)).length = n
  rw [List.length_drop, Nat.sub_sub_self h]

theorem rtake_rtake_append (as bs : List α) :
    (as.rtake n ++ bs).rtake n = (as ++ bs).rtake n := by
  rcases Nat.le_total as.length n with h | h
  · rw [rtake_of_length_le h]
  · obtain ⟨dropped, has, hlength⟩ := eq_append_rtake h
    have hle : n ≤ (as.rtake n ++ bs).length := by
      rw [List.length_append, hlength]
      exact Nat.le_add_right _ _
    have hsplit : as ++ bs = dropped ++ (as.rtake n ++ bs) := by
      rw [← List.append_assoc, ← has]
    rw [hsplit, rtake_append_of_le hle]

theorem rtake_append_rtake (as bs : List α) :
    (as ++ bs.rtake n).rtake n = (as ++ bs).rtake n := by
  rcases Nat.le_total bs.length n with h | h
  · rw [rtake_of_length_le h]
  · obtain ⟨dropped, hbs, hlength⟩ := eq_append_rtake h
    have hsplit : as ++ bs = (as ++ dropped) ++ bs.rtake n := by
      rw [List.append_assoc, ← hbs]
    rw [hsplit, rtake_append_of_le hlength.ge, rtake_append_of_le hlength.ge]

end Newest

/-! ### The sender -/

variable {P : Type*}

structure QueuedPayload (P : Type*) where
  payload : P
  queuedAt : Int

def MAX_QUEUE_SIZE : Nat := 100

def QUEUE_TTL_MS : Int := 24 * 60 * 60 * 1000

/-- How a request ends: with a status, in a body that is no JSON, aborted by its timeout, or
in another error. -/
inductive Response where
  | ok
  | notOk
  | badBody
  | aborted
  | error
  deriving DecidableEq

def Response.success (r : Response) : Bool := r = .ok

/-- A flush that awaits the send of `item`. -/
structure Flush (P : Type*) where
  now : Int
  item : QueuedPayload P
  rest : List (QueuedPayload P)
  failedItems : List (QueuedPayload P)

structure Sender (P : Type*) where
  /-- What the storage has under `PENDING_QUEUE`. -/
  queue : List (QueuedPayload P)
  /-- `isFlushing`, with what the flush holds. -/
  flush : Option (Flush P)
  /-- The payloads whose `sendSession` awaits its answer. -/
  inFlight : List P

def isExpired (now : Int) (item : QueuedPayload P) : Bool :=
  decide (QUEUE_TTL_MS < now - item.queuedAt)

namespace Sender

variable (s : Sender P)

/-- `slice(-MAX_QUEUE_SIZE)` -/
def saveQueue (queue : List (QueuedPayload P)) : Sender P :=
  { s with queue := queue.rtake MAX_QUEUE_SIZE }

def enqueue (payload : P) (now : Int) : Sender P := s.saveQueue (s.queue ++ [⟨payload, now⟩])

/-- The loop of `handleOnline` up to its next await, or to its end. -/
def sendNext (now : Int) (failedItems : List (QueuedPayload P)) :
    List (QueuedPayload P) → Sender P
  | [] =>
      if failedItems.isEmpty then { s with flush := none }
      else { s.saveQueue (failedItems ++ s.queue) with flush := none }
  | item :: rest =>
      if isExpired now item then sendNext now failedItems rest
      else { s with flush := some ⟨now, item, rest, failedItems⟩ }

def handleOnline (now : Int) : Sender P :=
  if s.flush.isSome then s
  else if s.queue.isEmpty then s
  else sendNext { s with queue := [] } now [] s.queue

/-- The answer to the send that a flush awaits. -/
def flushAnswered (response : Response) : Sender P :=
  match s.flush with
  | none => s
  | some f =>
      s.sendNext f.now (if response.success then f.failedItems else f.failedItems ++ [f.item]) f.rest

def sendSession (payload : P) (offline : Bool) (now : Int) : Sender P :=
  if offline then s.enqueue payload now else { s with inFlight := s.inFlight ++ [payload] }

/-- The answer to the `i`-th `sendSession` that awaits one. -/
def sessionAnswered (i : Nat) (response : Response) (now : Int) : Sender P :=
  match s.inFlight[i]? with
  | none => s
  | some payload =>
      let answered := { s with inFlight := s.inFlight.eraseIdx i }
      if response = .aborted then answered.enqueue payload now else answered

/-- Online, nothing that `sendSessionBeacon` tries touches the queue. -/
def sendSessionBeacon (payload : P) (offline : Bool) (now : Int) : Sender P :=
  if offline then s.enqueue payload now else s

end Sender

inductive Event (P : Type*) where
  | online (now : Int)
  | flushAnswered (response : Response)
  | sendSession (payload : P) (offline : Bool) (now : Int)
  | sessionAnswered (i : Nat) (response : Response) (now : Int)
  | sendSessionBeacon (payload : P) (offline : Bool) (now : Int)

def Sender.event (s : Sender P) : Event P → Sender P
  | .online now => s.handleOnline now
  | .flushAnswered response => s.flushAnswered response
  | .sendSession payload offline now => s.sendSession payload offline now
  | .sessionAnswered i response now => s.sessionAnswered i response now
  | .sendSessionBeacon payload offline now => s.sendSessionBeacon payload offline now

/-! ### The record of a flush -/

structure Record (P : Type*) where
  startedAt : Int
  /-- The queue as the flush found it. -/
  queued : List (QueuedPayload P)
  /-- The sends that were answered, each with its success. -/
  log : List (QueuedPayload P × Bool)
  /-- What was queued since the flush began. -/
  arrived : List (QueuedPayload P)

namespace Record

variable (r : Record P)

def expired : List (QueuedPayload P) := r.queued.filter (isExpired r.startedAt)

def sent : List (QueuedPayload P) := (r.log.filter fun entry => entry.2).map Prod.fst

def failed : List (QueuedPayload P) := (r.log.filter fun entry => !entry.2).map Prod.fst

end Record

/-- What an event adds to the queue. -/
def arrival (s : Sender P) : Event P → Option (QueuedPayload P)
  | .sendSession payload offline now => if offline then some ⟨payload, now⟩ else none
  | .sessionAnswered i response now =>
      if response = .aborted then (s.inFlight[i]?).map fun payload => ⟨payload, now⟩ else none
  | .sendSessionBeacon payload offline now => if offline then some ⟨payload, now⟩ else none
  | _ => none

structure Watched (P : Type*) where
  sender : Sender P
  record : Option (Record P)

/-- A flush that finds something begins a new record. -/
def recorded (w : Watched P) (e : Event P) : Option (Record P) :=
  match e with
  | .online now =>
      if w.sender.flush.isNone && !w.sender.queue.isEmpty then some ⟨now, w.sender.queue, [], []⟩
      else w.record
  | .flushAnswered response =>
      match w.sender.flush with
      | none => w.record
      | some f => w.record.map fun r => { r with log := r.log ++ [(f.item, response.success)] }
  | e => w.record.map fun r => { r with arrived := r.arrived ++ (arrival w.sender e).toList }

def step (w : Watched P) (e : Event P) : Option (Watched P) :=
  some ⟨w.sender.event e, recorded w e⟩

/-- A sender over a stored queue, that flushes nothing yet. -/
def Watched.start (queue : List (QueuedPayload P)) (inFlight : List P) : Watched P :=
  ⟨⟨queue, none, inFlight⟩, none⟩

/-! ### The claim -/

/-- What of a list is not expired. -/
def fresh (now : Int) (items : List (QueuedPayload P)) : List (QueuedPayload P) :=
  items.filter fun item => !isExpired now item

/-- What is still to be sent. -/
def Sender.awaiting (s : Sender P) : List (QueuedPayload P) :=
  match s.flush with
  | none => []
  | some f => f.item :: f.rest

/-- At every await: what was queued and not expired has been sent once or its turn is to
come, and the stored queue is the newest of what arrived, behind what failed once the flush
is over. -/
structure Conserved (s : Sender P) (r : Record P) : Prop where
  once : fresh r.startedAt r.queued = r.log.map Prod.fst ++ fresh r.startedAt s.awaiting
  during : s.flush.isSome = true → s.queue = r.arrived.rtake MAX_QUEUE_SIZE
  after : s.flush = none → s.queue = (r.failed ++ r.arrived).rtake MAX_QUEUE_SIZE

/-- After the flush every item is expired, sent or failed, in the order of the queue, and the
failed ones are stored before what arrived. -/
structure Settled (s : Sender P) (r : Record P) : Prop where
  parted : r.queued.Perm (r.expired ++ (r.sent ++ r.failed))
  sent : r.sent.Sublist r.queued
  failed : r.failed.Sublist r.queued
  stored : s.queue = (r.failed ++ r.arrived).rtake MAX_QUEUE_SIZE

/-! ### One step of the flush -/

theorem fresh_cons_of_expired {now : Int} {item : QueuedPayload P} {rest : List (QueuedPayload P)}
    (h : isExpired now item = true) : fresh now (item :: rest) = fresh now rest := by
  simp [fresh, h]

theorem fresh_cons {now : Int} {item : QueuedPayload P} {rest : List (QueuedPayload P)}
    (h : isExpired now item = false) : fresh now (item :: rest) = item :: fresh now rest := by
  simp [fresh, h]

/-- The loop awaits the next item that is not expired, or there is none. -/
theorem sendNext_cases (s : Sender P) (now : Int) (failedItems items : List (QueuedPayload P)) :
    (∃ item rest, isExpired now item = false ∧ fresh now items = fresh now (item :: rest) ∧
      s.sendNext now failedItems items = { s with flush := some ⟨now, item, rest, failedItems⟩ }) ∨
    (fresh now items = [] ∧
      s.sendNext now failedItems items = s.sendNext now failedItems []) := by
  induction items with
  | nil => exact Or.inr ⟨rfl, rfl⟩
  | cons item rest ih =>
      by_cases hexpired : isExpired now item = true
      · have hskip : s.sendNext now failedItems (item :: rest) =
            s.sendNext now failedItems rest := if_pos hexpired
        rw [hskip, fresh_cons_of_expired hexpired]
        exact ih
      · have hsend : s.sendNext now failedItems (item :: rest) =
            { s with flush := some ⟨now, item, rest, failedItems⟩ } := if_neg hexpired
        exact Or.inl ⟨item, rest, by simpa using hexpired, rfl, hsend⟩

/-- The record is right about the sender, and the flush about the record. -/
structure Kept (s : Sender P) (r : Record P) : Prop where
  conserved : Conserved s r
  flush : ∀ f, s.flush = some f →
    f.now = r.startedAt ∧ f.failedItems = r.failed ∧ isExpired r.startedAt f.item = false

theorem kept_sendNext {s : Sender P} {r : Record P} {items : List (QueuedPayload P)}
    (hqueue : s.queue = r.arrived.rtake MAX_QUEUE_SIZE)
    (honce : fresh r.startedAt r.queued = r.log.map Prod.fst ++ fresh r.startedAt items) :
    Kept (s.sendNext r.startedAt r.failed items) r := by
  rcases sendNext_cases s r.startedAt r.failed items with
    ⟨item, rest, hitem, hfresh, hnext⟩ | ⟨hfresh, hnext⟩
  · rw [hnext]
    refine ⟨⟨?_, fun _ => hqueue, fun h => nomatch h⟩, fun f hf => ?_⟩
    · show fresh r.startedAt r.queued = r.log.map Prod.fst ++ fresh r.startedAt (item :: rest)
      rw [honce, hfresh]
    · obtain rfl := Option.some.inj hf
      exact ⟨rfl, rfl, hitem⟩
  · rw [hnext]
    have hnone : (s.sendNext r.startedAt r.failed []).flush = none := by
      unfold Sender.sendNext
      split <;> rfl
    refine ⟨⟨?_, fun h => ?_, fun _ => ?_⟩, fun f hf => ?_⟩
    · show fresh r.startedAt r.queued = r.log.map Prod.fst ++
        fresh r.startedAt (s.sendNext r.startedAt r.failed []).awaiting
      rw [honce, hfresh]
      simp [Sender.awaiting, hnone, fresh]
    · simp [hnone] at h
    · unfold Sender.sendNext
      by_cases hfailed : r.failed.isEmpty = true
      · rw [if_pos hfailed, List.isEmpty_iff.mp hfailed, List.nil_append]
        exact hqueue
      · rw [if_neg hfailed]
        show (r.failed ++ s.queue).rtake MAX_QUEUE_SIZE = _
        rw [hqueue, rtake_append_rtake]
    · simp [hnone] at hf

/-- **Starting a flush.** -/
theorem kept_handleOnline {s : Sender P} (now : Int) (hflush : s.flush = none)
    (hqueue : s.queue.isEmpty = false) :
    Kept (s.handleOnline now) ⟨now, s.queue, [], []⟩ := by
  have hstart : s.handleOnline now = Sender.sendNext { s with queue := [] } now [] s.queue := by
    unfold Sender.handleOnline
    rw [if_neg (by simp [hflush]), if_neg (by simp [hqueue])]
  rw [hstart]
  exact kept_sendNext (r := ⟨now, s.queue, [], []⟩) rfl rfl

/-- **Going on with one.** -/
theorem kept_flushAnswered {s : Sender P} {r : Record P} {f : Flush P} (h : Kept s r)
    (hflush : s.flush = some f) (response : Response) :
    Kept (s.flushAnswered response) { r with log := r.log ++ [(f.item, response.success)] } := by
  obtain ⟨hnow, hfailed, hitem⟩ := h.flush f hflush
  have hanswered : s.flushAnswered response = s.sendNext f.now
      (if response.success then f.failedItems else f.failedItems ++ [f.item]) f.rest := by
    unfold Sender.flushAnswered
    rw [hflush]
  have honce : fresh r.startedAt r.queued =
      r.log.map Prod.fst ++ fresh r.startedAt (f.item :: f.rest) := by
    have hawaiting : s.awaiting = f.item :: f.rest := by
      unfold Sender.awaiting
      rw [hflush]
    rw [← hawaiting]
    exact h.conserved.once
  have hfailed' : (if response.success then f.failedItems else f.failedItems ++ [f.item]) =
      Record.failed { r with log := r.log ++ [(f.item, response.success)] } := by
    unfold Record.failed
    rw [hfailed]
    cases response.success with
    | true => simp [Record.failed]
    | false => simp [Record.failed]
  rw [hanswered, hnow, hfailed']
  refine kept_sendNext (r := { r with log := r.log ++ [(f.item, response.success)] })
    (h.conserved.during (by simp [hflush])) ?_
  show fresh r.startedAt r.queued =
    (r.log ++ [(f.item, response.success)]).map Prod.fst ++ fresh r.startedAt f.rest
  rw [honce, fresh_cons hitem, List.map_append, List.append_assoc]
  rfl

/-- **Queueing while a flush awaits, or afterwards.** -/
theorem Kept.arrive {s s' : Sender P} {r : Record P} (h : Kept s r)
    {item : Option (QueuedPayload P)} (hflush : s'.flush = s.flush)
    (hqueue : s'.queue = match item with
      | none => s.queue
      | some item => (s.queue ++ [item]).rtake MAX_QUEUE_SIZE) :
    Kept s' { r with arrived := r.arrived ++ item.toList } := by
  have hawaiting : s'.awaiting = s.awaiting := by
    unfold Sender.awaiting
    rw [hflush]
  cases item with
  | none =>
      have hrecord : { r with arrived := r.arrived ++ (none : Option (QueuedPayload P)).toList } =
          r := by simp
      rw [hrecord]
      refine ⟨⟨?_, fun hsome => ?_, fun hnone => ?_⟩, fun f hf => h.flush f (hflush ▸ hf)⟩
      · rw [hawaiting]
        exact h.conserved.once
      · rw [hqueue]
        exact h.conserved.during (hflush ▸ hsome)
      · rw [hqueue]
        exact h.conserved.after (hflush ▸ hnone)
  | some item =>
      refine ⟨⟨?_, fun hsome => ?_, fun hnone => ?_⟩, fun f hf => h.flush f (hflush ▸ hf)⟩
      · rw [hawaiting]
        exact h.conserved.once
      · rw [hqueue]
        show (s.queue ++ [item]).rtake MAX_QUEUE_SIZE =
          (r.arrived ++ [item]).rtake MAX_QUEUE_SIZE
        rw [h.conserved.during (hflush ▸ hsome), rtake_rtake_append]
      · rw [hqueue]
        show (s.queue ++ [item]).rtake MAX_QUEUE_SIZE =
          (r.failed ++ (r.arrived ++ [item])).rtake MAX_QUEUE_SIZE
        rw [h.conserved.after (hflush ▸ hnone), rtake_rtake_append, List.append_assoc]

/-! ### Runs -/

/-- What holds all along a run: without a record nothing was flushed. -/
def Watched.Kept (w : Watched P) : Prop :=
  match w.record with
  | none => w.sender.flush = none
  | some r => OfflineQueue.Kept w.sender r

/-- The events that are not about the flush queue their payload, or nothing. -/
theorem kept_arrival {w : Watched P} (h : w.Kept) (item : Option (QueuedPayload P)) {s' : Sender P}
    (hflush : s'.flush = w.sender.flush)
    (hqueue : s'.queue = match item with
      | none => w.sender.queue
      | some item => (w.sender.queue ++ [item]).rtake MAX_QUEUE_SIZE) :
    Watched.Kept ⟨s', w.record.map fun r => { r with arrived := r.arrived ++ item.toList }⟩ := by
  unfold Watched.Kept at h ⊢
  cases hrecord : w.record with
  | none =>
      rw [hrecord] at h
      exact hflush.trans h
  | some r =>
      rw [hrecord] at h
      exact h.arrive hflush hqueue

theorem kept_enqueue {w : Watched P} (h : w.Kept) (payload : P) (offline : Bool) (now : Int)
    {s' : Sender P} (hflush : s'.flush = w.sender.flush) (hqueue : s'.queue = w.sender.queue) :
    Watched.Kept ⟨if offline then w.sender.enqueue payload now else s',
      w.record.map fun r => { r with
        arrived := r.arrived ++
          (if offline then some ⟨payload, now⟩ else none : Option (QueuedPayload P)).toList }⟩ := by
  cases offline with
  | true => exact kept_arrival h (some ⟨payload, now⟩) rfl rfl
  | false => exact kept_arrival h none hflush hqueue

theorem kept_step {w : Watched P} (h : w.Kept) (e : Event P) :
    Watched.Kept ⟨w.sender.event e, recorded w e⟩ := by
  cases e with
  | online now =>
      show Watched.Kept ⟨w.sender.handleOnline now,
        if w.sender.flush.isNone && !w.sender.queue.isEmpty then _ else w.record⟩
      by_cases hstart : (w.sender.flush.isNone && !w.sender.queue.isEmpty) = true
      · rw [if_pos hstart]
        obtain ⟨hflush, hqueue⟩ := Bool.and_eq_true_iff.mp hstart
        exact kept_handleOnline now (Option.isNone_iff_eq_none.mp hflush) (by simpa using hqueue)
      · rw [if_neg hstart]
        have hsame : w.sender.handleOnline now = w.sender := by
          unfold Sender.handleOnline
          by_cases hflush : w.sender.flush.isSome = true
          · rw [if_pos hflush]
          · rw [if_neg hflush, if_pos]
            by_contra hqueue
            exact hstart (by simp_all)
        rw [hsame]
        exact h
  | flushAnswered response =>
      show Watched.Kept ⟨w.sender.flushAnswered response, recorded w (.flushAnswered response)⟩
      cases hflush : w.sender.flush with
      | none =>
          have hsame : w.sender.flushAnswered response = w.sender := by
            unfold Sender.flushAnswered
            rw [hflush]
          have hrecord : recorded w (.flushAnswered response) = w.record := by
            simp only [recorded, hflush]
          rw [hsame, hrecord]
          exact h
      | some f =>
          unfold Watched.Kept at h ⊢
          cases hrecord : w.record with
          | none =>
              rw [hrecord] at h
              exact nomatch hflush.symm.trans h
          | some r =>
              rw [hrecord] at h
              simp only [recorded, hflush, hrecord]
              exact kept_flushAnswered h hflush response
  | sendSession payload offline now => exact kept_enqueue h payload offline now rfl rfl
  | sessionAnswered i response now =>
      show Watched.Kept ⟨w.sender.sessionAnswered i response now, w.record.map fun r =>
        { r with arrived :=
            r.arrived ++ (arrival w.sender (.sessionAnswered i response now)).toList }⟩
      cases hpayload : w.sender.inFlight[i]? with
      | none =>
          have hsame : w.sender.sessionAnswered i response now = w.sender := by
            simp only [Sender.sessionAnswered, hpayload]
          have harrival : arrival w.sender (.sessionAnswered i response now) = none := by
            simp [arrival, hpayload]
          rw [hsame, harrival]
          exact kept_arrival h none rfl rfl
      | some payload =>
          by_cases haborted : response = .aborted
          · have harrival : arrival w.sender (.sessionAnswered i response now) =
                some ⟨payload, now⟩ := by simp [arrival, hpayload, haborted]
            rw [harrival]
            refine kept_arrival h _ ?_ ?_
            · simp [Sender.sessionAnswered, hpayload, haborted, Sender.enqueue, Sender.saveQueue]
            · simp [Sender.sessionAnswered, hpayload, haborted, Sender.enqueue, Sender.saveQueue]
          · have harrival : arrival w.sender (.sessionAnswered i response now) = none := by
              simp [arrival, haborted]
            rw [harrival]
            refine kept_arrival h _ ?_ ?_
            · simp [Sender.sessionAnswered, hpayload, haborted]
            · simp [Sender.sessionAnswered, hpayload, haborted]
  | sendSessionBeacon payload offline now => exact kept_enqueue h payload offline now rfl rfl

/-- A flush that is over has parted its items. -/
theorem Conserved.settled {s : Sender P} {r : Record P} (h : Conserved s r)
    (hflush : s.flush = none) : Settled s r := by
  have honce : fresh r.startedAt r.queued = r.log.map Prod.fst := by
    have hawaiting : s.awaiting = [] := by
      unfold Sender.awaiting
      rw [hflush]
    rw [h.once, hawaiting]
    exact List.append_nil _
  have hsub : (r.log.map Prod.fst).Sublist r.queued := honce ▸ List.filter_sublist
  have hlog : (r.log.map Prod.fst).Perm (r.sent ++ r.failed) := by
    unfold Record.sent Record.failed
    rw [← List.map_append]
    exact ((List.filter_append_perm (fun entry => entry.2) r.log).symm).map Prod.fst
  refine ⟨?_, ?_, ?_, h.after hflush⟩
  · have hparts := List.filter_append_perm (isExpired r.startedAt) r.queued
    refine hparts.symm.trans (List.Perm.append (List.Perm.refl _) ?_)
    show (fresh r.startedAt r.queued).Perm _
    rw [honce]
    exact hlog
  · exact (List.filter_sublist.map Prod.fst).trans hsub
  · exact (List.filter_sublist.map Prod.fst).trans hsub

/-- **No item of the queue is lost but by trimming to the newest hundred.** -/
theorem queue_conserved {queue : List (QueuedPayload P)} {inFlight : List P}
    {es : List (Event P)} {w : Watched P}
    (h : exec step (Watched.start queue inFlight) es = some w) (r : Record P)
    (hr : w.record = some r) :
    Conserved w.sender r ∧ (w.sender.flush = none → Settled w.sender r) := by
  have hstart : (Watched.start queue inFlight).Kept := rfl
  have hkept : w.Kept := exec_invariant (P := Watched.Kept) (fun w e w' hw hstep => by
    obtain rfl := Option.some.inj hstep
    exact kept_step hw e) hstart h
  unfold Watched.Kept at hkept
  rw [hr] at hkept
  exact ⟨hkept.conserved, hkept.conserved.settled⟩

namespace FlushExample

/-- A day old, and two of this morning. -/
def queue : List (QueuedPayload String) := [⟨"old", 0⟩, ⟨"p1", 90000000⟩, ⟨"p2", 90001000⟩]

/-- The send of `p1` fails, and while that of `p2` is awaited the browser is offline again. -/
def events : List (Event String) :=
  [.online 90002000, .flushAnswered .notOk, .sendSession "p3" true 90003000, .flushAnswered .ok]

/-- What is stored after the flush: `p1`, then `p3`. -/
theorem queue_conserved_offline : ∃ w r,
    exec step (Watched.start queue []) events = some w ∧ w.record = some r ∧
      w.sender.queue.map QueuedPayload.payload = ["p1", "p3"] ∧ Conserved w.sender r ∧
      Settled w.sender r := by
  have h : exec step (Watched.start queue []) events = some _ := rfl
  obtain ⟨hconserved, hsettled⟩ := queue_conserved h _ rfl
  exact ⟨_, _, rfl, rfl, rfl, hconserved, hsettled rfl⟩

end FlushExample

end Veridian.OfflineQueue
