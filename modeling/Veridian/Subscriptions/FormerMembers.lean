/-
Reports to members, and to those who were.

Whoever creates or resumes a subscription passes the guard of its workspace.  The scheduler
looks at the subscription alone, and neither `remove` nor `leave` touches the subscriptions of
the user: they revoke his sessions at most.  So a subscription that is active when a membership
ends goes on being mailed.

`ReportStore` puts the members, the subscriptions and the ticks together.  A tick notes what it
finds due, and each of these is handled on its own, so that anything can happen in between.
`reports_stop_iff` says in which runs no tick, whenever it comes, mails a former member.
-/
import Veridian.Members.Removal
import Veridian.Subscriptions.SlotRuns

namespace Veridian.Subscriptions

open Replacing

/-- A report that was mailed, and whether the membership of its user in its workspace had been
ended by then. -/
structure ReportMail where
  workspaceId : String
  userId : String
  former : Bool
  deriving DecidableEq

structure ReportStore where
  members : MemberStore
  reports : SchedulerStore
  /-- What the ticks have found due. -/
  found : List Subscription
  /-- The memberships that `remove` or `leave` has ended, by workspace and user. -/
  ended : List (String × String)
  mails : List ReportMail

inductive ReportAction where
  | member (a : MemberAction)
  /-- A request of a user, with the workspace that the guard looks at. -/
  | call (workspaceId : String) (superAdmin : Bool) (r : Request)
  | tick (wait : Nat)
  | handle (sub : Subscription) (h : Handling)

/-- The steps of the scheduler. -/
def ReportAction.scheduled : ReportAction → Bool
  | .member _ | .call .. => false
  | .tick _ | .handle .. => true

def Subscription.membership (sub : Subscription) : String × String := (sub.workspaceId, sub.userId)

section Steps

variable {δ : Type} (host : Host) (dayjs : Dayjs δ) (known : String → Bool)

/-- The membership that the operation ends: the user is removed, and is not a member then. -/
def ends (s : MemberStore) (a : MemberAction) : Option (String × String) :=
  (removal s a).bind fun r =>
    if (s.step host a).any fun t => membershipOf t.memberships r.workspaceId r.userId = none then
      some (r.workspaceId, r.userId)
    else none

/-- Those of the ended memberships that have not been taken up again. -/
def stillEnded (s : MemberStore) (ended : List (String × String)) : List (String × String) :=
  ended.filter fun pair => membershipOf s.memberships pair.1 pair.2 = none

/-- The guard lets a request pass: `unsubscribe` pauses without it, and only the scheduler marks. -/
def guarded (s : MemberStore) (workspaceId : String) (superAdmin : Bool) : Call → Bool
  | .create dto userId .. =>
      superAdmin || (membershipOf s.memberships dto.workspaceId userId).isSome
  | .update dto userId => superAdmin || (membershipOf s.memberships dto.workspaceId userId).isSome
  | .resume _ userId | .delete _ userId =>
      superAdmin || (membershipOf s.memberships workspaceId userId).isSome
  | .pause .. => true
  | .markSent _ | .markFailed .. => false

/-- `randomUUID` draws an id that no subscription has. -/
def freshId (rows : List Subscription) : Call → Bool
  | .create _ _ id _ => rows.all fun row => row.id ≠ id
  | _ => true

/-- The row a request stores. -/
def callRow (s : ReportStore) (workspaceId : String) (superAdmin : Bool) (r : Request) :
    Option Subscription :=
  if guarded s.members workspaceId superAdmin r.call then
    storedRow dayjs known s.reports.rows (s.reports.clock + r.wait) r.call
  else none

def ReportStore.step (s : ReportStore) : ReportAction → Option ReportStore
  | .member a => (s.members.step host a).map fun members =>
      { s with members, ended := stillEnded members (s.ended ++ (ends host s.members a).toList) }
  | .call workspaceId superAdmin r =>
      if freshId s.reports.rows r.call = false then none
      else
        match callRow dayjs known s workspaceId superAdmin r with
        | none => some s
        | some row => some { s with reports := s.reports.insert row r.wait }
  | .tick wait =>
      let now := s.reports.clock + wait
      some { s with
        reports := { s.reports with clock := now }
        found := s.found ++ findDue s.reports.rows now }
  | .handle sub h =>
      if sub ∈ s.found then
        let reports := (processSubscription dayjs s.reports sub h).1
        some { s with
          reports
          mails := s.mails ++ (reports.sent.drop s.reports.sent.length).map fun _ =>
            ⟨sub.workspaceId, sub.userId, sub.membership ∈ s.ended⟩ }
      else none

/-! ### The claim and its condition -/

/-- No report was mailed to a former member. -/
def ReportsStop (s : ReportStore) : Prop := ∀ mail ∈ s.mails, mail.former = false

/-- The subscriptions in force that are active. -/
def activeRows (rows : List Subscription) : List Subscription :=
  (final Subscription.key Subscription.updatedAt rows).filter fun sub => sub.status = .active

/-- A membership ends when no subscription of it is active, and a former member starts none. -/
def StartsNone (s : ReportStore) : ReportAction → Prop
  | .member a => ∀ pair ∈ ends host s.members a, ∀ sub ∈ activeRows s.reports.rows,
      sub.membership ≠ pair
  | .call workspaceId superAdmin r => freshId s.reports.rows r.call = true →
      ∀ row ∈ callRow dayjs known s workspaceId superAdmin r, row.status = .active →
        row.membership ∉ s.ended
  | .tick _ | .handle .. => True

end Steps

instance (s : ReportStore) : Decidable (ReportsStop s) :=
  inferInstanceAs (Decidable (∀ mail ∈ s.mails, mail.former = false))

def ReportStore.init (users : List UserRow) (clock : Int) : ReportStore :=
  ⟨.init users, .init [] clock, [], [], []⟩

/-! ### What is in force -/

theorem mem_activeRows {rows : List Subscription} {sub : Subscription} :
    sub ∈ activeRows rows ↔
      sub ∈ final Subscription.key Subscription.updatedAt rows ∧ sub.status = .active := by
  unfold activeRows
  rw [List.mem_filter, decide_eq_true_iff]

theorem membership_of_key {r r' : Subscription} (h : r.key = r'.key) :
    r.membership = r'.membership :=
  congrArg (fun key => (key.2.1, key.1)) h

theorem mem_final_of_getById {rows : List Subscription} {id : String} {sub : Subscription}
    (h : getById rows id = some sub) :
    sub ∈ final Subscription.key Subscription.updatedAt rows :=
  List.mem_of_mem_filter (List.mem_of_mem_head? h)

theorem getById_of_active {rows : List Subscription} (hone : OneKey rows) {sub : Subscription}
    (h : sub ∈ activeRows rows) : getById rows sub.id = some sub := by
  obtain ⟨hfinal, hactive⟩ := mem_activeRows.mp h
  rw [getById_eq_filter hone (final_subset _ _ _ hfinal)]
  have hin : inForce sub rows = some sub :=
    (mem_final_iff Subscription.key Subscription.updatedAt).mp hfinal
  rw [hin, Option.filter_some, if_pos (by simp [hactive])]

/-- The newest row of a subscription is the one in force. -/
theorem mem_activeRows_append {rows : List Subscription} {x sub : Subscription}
    (hnew : ∀ r ∈ rows, r.updatedAt ≤ x.updatedAt) :
    sub ∈ activeRows (rows ++ [x]) ↔
      sub = x ∧ x.status = .active ∨ sub ∈ activeRows rows ∧ sub.key ≠ x.key := by
  rw [mem_activeRows, mem_activeRows, mem_final_append _ _ fun r hr _ => hnew r hr]
  constructor
  · rintro ⟨rfl | ⟨hfinal, hne⟩, hactive⟩
    · exact Or.inl ⟨rfl, hactive⟩
    · exact Or.inr ⟨⟨hfinal, hactive⟩, hne⟩
  · rintro (⟨rfl, hactive⟩ | ⟨⟨hfinal, hactive⟩, hne⟩)
    · exact ⟨Or.inl rfl, hactive⟩
    · exact ⟨Or.inr ⟨hfinal, hne⟩, hactive⟩

/-! ### The table -/

/-- The rows of one id are one subscription, no row is of later, and what is active has a slot. -/
structure Tidy (s : SchedulerStore) : Prop where
  oneKey : OneKey s.rows
  past : ∀ r ∈ s.rows, r.updatedAt ≤ s.clock
  slots : ∀ sub ∈ activeRows s.rows, sub.nextSendAt.isSome

theorem Tidy.insert {s : SchedulerStore} (h : Tidy s) {x : Subscription} {delay : Nat}
    (hone : OneKey (s.rows ++ [x])) (hnow : x.updatedAt = s.clock + delay)
    (hslot : x.status = .active → x.nextSendAt.isSome) : Tidy (s.insert x delay) := by
  have hnew : ∀ r ∈ s.rows, r.updatedAt ≤ x.updatedAt := fun r hr => by
    have := h.past r hr
    omega
  refine ⟨hone, fun r hr => ?_, fun sub hsub => ?_⟩
  · show r.updatedAt ≤ s.clock + delay
    rcases List.mem_append.mp hr with hold | hlast
    · have := h.past r hold
      omega
    · rw [List.mem_singleton.mp hlast]
      exact le_of_eq hnow
  · rcases (mem_activeRows_append hnew).mp hsub with ⟨rfl, hactive⟩ | ⟨hold, -⟩
    · exact hslot hactive
    · exact h.slots sub hold

/-- Between two tables rows were added, and no membership became active by them. -/
structure Since (s s' : SchedulerStore) : Prop where
  tidy : Tidy s'
  rows : ∀ r ∈ s.rows, r ∈ s'.rows
  active : ∀ sub ∈ activeRows s'.rows, ∃ sub₀ ∈ activeRows s.rows,
    sub₀.membership = sub.membership

theorem Since.insert {s s' : SchedulerStore} (h : Since s s') {existing x : Subscription}
    {id : String} {delay : Nat} (hfound : getById s'.rows id = some existing)
    (hkey : x.key = existing.key) (hnow : x.updatedAt = s'.clock + delay)
    (hactive : x.status = .active → existing.status = .active)
    (hslot : existing.nextSendAt.isSome → x.nextSendAt.isSome) : Since s (s'.insert x delay) := by
  have hfinal := mem_final_of_getById hfound
  have hnew : ∀ r ∈ s'.rows, r.updatedAt ≤ x.updatedAt := fun r hr => by
    have := h.tidy.past r hr
    omega
  refine ⟨h.tidy.insert (h.tidy.oneKey.append (mem_of_getById hfound).1 hkey) hnow fun hx =>
    hslot (h.tidy.slots existing (mem_activeRows.mpr ⟨hfinal, hactive hx⟩)), fun r hr =>
    List.mem_append_left _ (h.rows r hr), fun sub hsub => ?_⟩
  rcases (mem_activeRows_append hnew).mp hsub with ⟨rfl, hx⟩ | ⟨hold, -⟩
  · obtain ⟨sub₀, hsub₀, hsame⟩ := h.active existing (mem_activeRows.mpr ⟨hfinal, hactive hx⟩)
    exact ⟨sub₀, hsub₀, hsame.trans (membership_of_key hkey).symm⟩
  · exact h.active sub hold

section Handle

variable {δ : Type} {dayjs : Dayjs δ} {s s' : SchedulerStore}

theorem Since.markSent {t : SchedulerStore} (h : Since s t) {id : String}
    {answer : Except String Nat} (hm : markSent dayjs t id answer = .ok s') :
    Since s s' ∧ s'.sent = t.sent := by
  cases answer with
  | error e => exact nomatch hm
  | ok delay =>
      unfold Subscriptions.markSent at hm
      dsimp only at hm
      cases hfound : getById t.rows id with
      | none =>
          rw [hfound] at hm
          exact nomatch hm
      | some existing =>
          rw [hfound] at hm
          obtain rfl := Except.ok.inj hm
          exact ⟨h.insert hfound (x := sentRow dayjs existing (t.clock + delay)) rfl rfl
            (fun hactive => hactive) fun _ => rfl, rfl⟩

theorem Since.markFailed {t : SchedulerStore} (h : Since s t) {id error : String}
    {answer : Except String Nat} (hm : markFailed t id error answer = .ok s') :
    Since s s' ∧ s'.sent = t.sent := by
  cases answer with
  | error e => exact nomatch hm
  | ok delay =>
      unfold Subscriptions.markFailed at hm
      dsimp only at hm
      cases hfound : getById t.rows id with
      | none =>
          rw [hfound] at hm
          exact nomatch hm
      | some existing =>
          rw [hfound] at hm
          obtain rfl := Except.ok.inj hm
          refine ⟨h.insert hfound (x := failedRow existing error (t.clock + delay)) rfl rfl
            (fun hactive => ?_) fun hsome => hsome, rfl⟩
          have hstatus : (if existing.consecutiveFailures + 1 ≥ 5 then SubscriptionStatus.disabled
              else existing.status) = .active := hactive
          split at hstatus
          · exact nomatch hstatus
          · exact hstatus

variable (dayjs) in
/-- What the `try` does: a report is mailed exactly when it goes out. -/
theorem trySend_since (hs : Tidy s) (sub : Subscription) (h : Handling) :
    Since s (trySend dayjs s sub h).1 ∧ ∃ mail, (trySend dayjs s sub h).1.sent =
      if goesOut s sub h then s.sent ++ [⟨sub.id, sub.nextSendAt, mail⟩] else s.sent := by
  have hsame : Since s s := ⟨hs, fun _ hr => hr, fun sub hsub => ⟨sub, hsub, rfl⟩⟩
  have hnone : goesOut s sub h = false → Since s s ∧ ∃ mail, s.sent =
      if goesOut s sub h then s.sent ++ [⟨sub.id, sub.nextSendAt, mail⟩] else s.sent := by
    intro hout
    rw [hout]
    exact ⟨hsame, ⟨"", "", ""⟩, rfl⟩
  unfold trySend
  cases hrefetch : h.refetch with
  | error e => exact hnone (by simp [goesOut, hrefetch, succeeds])
  | ok u =>
      dsimp only
      by_cases hcurrent : isCurrent s.rows sub = false
      · rw [if_pos hcurrent]
        exact hnone (by simp [goesOut, hcurrent])
      · rw [if_neg hcurrent]
        cases hprepare : prepare sub h with
        | error e => exact hnone (by simp [goesOut, hprepare, succeeds])
        | ok mail =>
            dsimp only
            cases hsend : h.sendReport with
            | error e => exact hnone (by simp [goesOut, hsend, succeeds])
            | ok u' =>
                dsimp only
                have hout : goesOut s sub h = true := by
                  simp [goesOut, hrefetch, hprepare, hsend, succeeds,
                    (Bool.not_eq_false _).mp hcurrent]
                have hmailed : Since s (s.mailed sub mail) :=
                  ⟨⟨hs.oneKey, hs.past, hs.slots⟩, hsame.rows, hsame.active⟩
                rw [hout]
                cases hmark : Subscriptions.markSent dayjs (s.mailed sub mail) sub.id h.markSent with
                | error e => exact ⟨hmailed, mail, rfl⟩
                | ok s'' =>
                    obtain ⟨hsince, hsent⟩ := hmailed.markSent hmark
                    exact ⟨hsince, mail, hsent⟩

variable (dayjs) in
theorem processSubscription_since (hs : Tidy s) (sub : Subscription) (h : Handling) :
    Since s (processSubscription dayjs s sub h).1 ∧
      ∃ mail, (processSubscription dayjs s sub h).1.sent =
        if goesOut s sub h then s.sent ++ [⟨sub.id, sub.nextSendAt, mail⟩] else s.sent := by
  have htried := trySend_since dayjs hs sub h
  unfold processSubscription
  rcases htry : trySend dayjs s sub h with ⟨t, _ | u⟩
  · rename_i e
    rw [htry] at htried
    obtain ⟨hsince, mail, hsent⟩ := htried
    dsimp only at hsince hsent ⊢
    cases hmark : Subscriptions.markFailed t sub.id e h.markFailed with
    | error e' => exact ⟨hsince, mail, hsent⟩
    | ok t' =>
        obtain ⟨hsince', hsent'⟩ := hsince.markFailed hmark
        exact ⟨hsince', mail, hsent'.trans hsent⟩
  · rw [htry] at htried
    exact htried

end Handle

/-! ### One step -/

theorem OneKey.append_fresh {rows : List Subscription} (h : OneKey rows) {x : Subscription}
    (hfresh : ∀ r ∈ rows, r.id ≠ x.id) : OneKey (rows ++ [x]) := by
  intro r hr r' hr' hid
  rcases List.mem_append.mp hr with hold | hlast
  · rcases List.mem_append.mp hr' with hold' | hlast'
    · exact h r hold r' hold' hid
    · rw [List.mem_singleton.mp hlast'] at hid
      exact absurd hid (hfresh r hold)
  · rcases List.mem_append.mp hr' with hold' | hlast'
    · rw [List.mem_singleton.mp hlast] at hid
      exact absurd hid.symm (hfresh r' hold')
    · rw [List.mem_singleton.mp hlast, List.mem_singleton.mp hlast']

section Step

variable {δ : Type} {host : Host} {dayjs : Dayjs δ} {known : String → Bool}

/-- The row of a request: of a new subscription or of one that is there, and with a slot when it
is active. -/
theorem callRow_spec {s : ReportStore} {workspaceId : String} {superAdmin : Bool} {r : Request}
    (hfresh : freshId s.reports.rows r.call = true) {row : Subscription}
    (hrow : callRow dayjs known s workspaceId superAdmin r = some row) (hone : OneKey s.reports.rows) :
    OneKey (s.reports.rows ++ [row]) ∧ row.updatedAt = s.reports.clock + r.wait ∧
      (row.status = .active → row.nextSendAt.isSome) := by
  obtain ⟨hguarded, hrow⟩ := Option.ite_none_right_eq_some.mp hrow
  generalize s.reports.clock + r.wait = now at hrow ⊢
  generalize s.reports.rows = rows at hfresh hrow hone ⊢
  cases hcall : r.call with
  | create dto userId id workspaceTimezone =>
      rw [hcall] at hrow hfresh
      obtain ⟨-, hrow⟩ := Option.ite_none_right_eq_some.mp hrow
      obtain rfl := Option.some.inj hrow
      refine ⟨hone.append_fresh fun r' hr' => ?_, rfl, fun _ => rfl⟩
      exact of_decide_eq_true (List.all_eq_true.mp hfresh r' hr')
  | update dto userId =>
      rw [hcall] at hrow
      obtain ⟨existing, hget, hrow⟩ := Option.bind_eq_some_iff.mp hrow
      obtain ⟨-, hrow⟩ := Option.ite_none_right_eq_some.mp hrow
      obtain rfl := Option.some.inj hrow
      refine ⟨hone.append (mem_of_get hget) rfl, rfl, fun hactive => ?_⟩
      unfold updatedRow
      rw [if_pos (show existing.status = .active from hactive)]
      rfl
  | pause id userId =>
      rw [hcall] at hrow
      obtain ⟨existing, hget, rfl⟩ := Option.map_eq_some_iff.mp hrow
      exact ⟨hone.append (mem_of_get hget) rfl, rfl, fun hactive => nomatch hactive⟩
  | resume id userId =>
      rw [hcall] at hrow
      obtain ⟨existing, hfilter, rfl⟩ := Option.map_eq_some_iff.mp hrow
      obtain ⟨hget, -⟩ := Option.filter_eq_some_iff.mp hfilter
      exact ⟨hone.append (mem_of_get hget) rfl, rfl, fun _ => rfl⟩
  | delete id userId =>
      rw [hcall] at hrow
      obtain ⟨existing, hget, rfl⟩ := Option.map_eq_some_iff.mp hrow
      exact ⟨hone.append (mem_of_get hget) rfl, rfl, fun hactive => nomatch hactive⟩
  | markSent id =>
      rw [hcall] at hguarded
      exact nomatch hguarded
  | markFailed id error =>
      rw [hcall] at hguarded
      exact nomatch hguarded

/-- What the ticks have found is in the table. -/
structure Valid (s : ReportStore) : Prop where
  tidy : Tidy s.reports
  found : ∀ sub ∈ s.found, sub ∈ s.reports.rows

/-- No subscription of an ended membership is active. -/
def EndedQuiet (s : ReportStore) : Prop :=
  ∀ sub ∈ activeRows s.reports.rows, sub.membership ∉ s.ended

theorem step_call {s s' : ReportStore} {workspaceId : String} {superAdmin : Bool} {r : Request}
    (hstep : s.step host dayjs known (.call workspaceId superAdmin r) = some s') :
    freshId s.reports.rows r.call = true ∧
      ((callRow dayjs known s workspaceId superAdmin r = none ∧ s' = s) ∨
        ∃ row, callRow dayjs known s workspaceId superAdmin r = some row ∧
          s' = { s with reports := s.reports.insert row r.wait }) := by
  obtain ⟨hfresh, hstep⟩ := Option.ite_none_left_eq_some.mp hstep
  refine ⟨Bool.not_eq_false _ ▸ hfresh, ?_⟩
  cases hrow : callRow dayjs known s workspaceId superAdmin r with
  | none =>
      rw [hrow] at hstep
      exact Or.inl ⟨rfl, (Option.some.inj hstep).symm⟩
  | some row =>
      rw [hrow] at hstep
      exact Or.inr ⟨row, rfl, (Option.some.inj hstep).symm⟩

theorem step_valid {s s' : ReportStore} {a : ReportAction} (h : Valid s)
    (hstep : s.step host dayjs known a = some s') : Valid s' := by
  cases a with
  | member a =>
      obtain ⟨members, -, rfl⟩ := Option.map_eq_some_iff.mp hstep
      exact ⟨h.tidy, h.found⟩
  | call workspaceId superAdmin r =>
      obtain ⟨hfresh, ⟨-, rfl⟩ | ⟨row, hrow, rfl⟩⟩ := step_call hstep
      · exact h
      · obtain ⟨hone, hnow, hslot⟩ := callRow_spec hfresh hrow h.tidy.oneKey
        exact ⟨h.tidy.insert hone hnow hslot, fun sub hsub =>
          List.mem_append_left _ (h.found sub hsub)⟩
  | tick wait =>
      obtain rfl := Option.some.inj hstep
      refine ⟨⟨h.tidy.oneKey, fun r hr => ?_, h.tidy.slots⟩, fun sub hsub => ?_⟩
      · have := h.tidy.past r hr
        show r.updatedAt ≤ s.reports.clock + wait
        omega
      · rcases List.mem_append.mp hsub with hold | hdue
        · exact h.found sub hold
        · rw [findDue, List.mem_insertionSort] at hdue
          exact final_subset _ _ _ (List.mem_of_mem_filter hdue)
  | handle sub hd =>
      obtain ⟨-, hstep⟩ := Option.ite_none_right_eq_some.mp hstep
      obtain rfl := Option.some.inj hstep
      obtain ⟨hsince, -⟩ := processSubscription_since dayjs h.tidy sub hd
      exact ⟨hsince.tidy, fun sub' hsub' => hsince.rows _ (h.found sub' hsub')⟩

/-- A step leaves no subscription of an ended membership active exactly when it starts none. -/
theorem step_quiet_iff {s s' : ReportStore} {a : ReportAction} (h : Valid s) (hquiet : EndedQuiet s)
    (hstep : s.step host dayjs known a = some s') :
    EndedQuiet s' ↔ StartsNone host dayjs known s a := by
  cases a with
  | member a =>
      obtain ⟨members, hmembers, rfl⟩ := Option.map_eq_some_iff.mp hstep
      constructor
      · intro hq pair hpair sub hsub hsame
        refine hq sub hsub ?_
        rw [hsame]
        refine List.mem_filter.mpr ⟨List.mem_append_right _ (by simpa using hpair), ?_⟩
        -- a membership that ends has ended after the step
        obtain ⟨r, -, hends⟩ := Option.bind_eq_some_iff.mp hpair
        obtain ⟨hany, hpair'⟩ := Option.ite_none_right_eq_some.mp hends
        rw [hmembers] at hany
        rw [← Option.some.inj hpair']
        exact hany
      · intro hstarts sub hsub hmem
        rcases List.mem_append.mp (List.mem_of_mem_filter hmem) with hold | hnew
        · exact hquiet sub hsub hold
        · exact hstarts _ (by simpa using hnew) sub hsub rfl
  | call workspaceId superAdmin r =>
      obtain ⟨hfresh, ⟨hnone, rfl⟩ | ⟨row, hrow, rfl⟩⟩ := step_call hstep
      · refine iff_of_true hquiet fun _ row hrow => ?_
        rw [hnone] at hrow
        exact nomatch hrow
      · obtain ⟨-, hnow, -⟩ := callRow_spec hfresh hrow h.tidy.oneKey
        have hnew : ∀ r ∈ s.reports.rows, r.updatedAt ≤ row.updatedAt := fun r' hr' => by
          have := h.tidy.past r' hr'
          omega
        constructor
        · intro hq _ row' hrow' hactive
          obtain rfl := Option.some.inj (hrow.symm.trans hrow')
          exact hq row ((mem_activeRows_append hnew).mpr (Or.inl ⟨rfl, hactive⟩))
        · intro hstarts sub hsub
          rcases (mem_activeRows_append hnew).mp hsub with ⟨rfl, hactive⟩ | ⟨hold, -⟩
          · exact hstarts hfresh _ hrow hactive
          · exact hquiet sub hold
  | tick wait =>
      obtain rfl := Option.some.inj hstep
      exact iff_of_true hquiet trivial
  | handle sub hd =>
      obtain ⟨-, hstep⟩ := Option.ite_none_right_eq_some.mp hstep
      obtain rfl := Option.some.inj hstep
      obtain ⟨hsince, -⟩ := processSubscription_since dayjs h.tidy sub hd
      refine iff_of_true (fun sub' hsub' => ?_) trivial
      obtain ⟨sub₀, hsub₀, hsame⟩ := hsince.active sub' hsub'
      rw [← hsame]
      exact hquiet sub₀ hsub₀

theorem current_of_goesOut {s : ReportStore} (h : Valid s) {sub : Subscription}
    (hfound : sub ∈ s.found) {hd : Handling} (hout : goesOut s.reports sub hd = true) :
    ∃ current ∈ activeRows s.reports.rows, current.membership = sub.membership := by
  have hcurrent : isCurrent s.reports.rows sub = true := by
    unfold goesOut at hout
    simp only [Bool.and_eq_true] at hout
    exact hout.1.1.2
  obtain ⟨current, hget, hdue⟩ := (Option.any_eq_true _ _).mp hcurrent
  refine ⟨current, mem_activeRows.mpr ⟨mem_final_of_getById hget, (of_decide_eq_true hdue).1⟩, ?_⟩
  obtain ⟨hmem, hid, -⟩ := mem_of_getById hget
  exact membership_of_key (h.tidy.oneKey current hmem sub (h.found sub hfound) hid)

/-- While no subscription of an ended membership is active, no former member is mailed. -/
theorem step_stops {s s' : ReportStore} {a : ReportAction} (h : Valid s) (hquiet : EndedQuiet s)
    (hstop : ReportsStop s) (hstep : s.step host dayjs known a = some s') : ReportsStop s' := by
  cases a with
  | member a =>
      obtain ⟨members, -, rfl⟩ := Option.map_eq_some_iff.mp hstep
      exact hstop
  | call workspaceId superAdmin r =>
      obtain ⟨-, ⟨-, rfl⟩ | ⟨row, -, rfl⟩⟩ := step_call hstep
      · exact hstop
      · exact hstop
  | tick wait =>
      obtain rfl := Option.some.inj hstep
      exact hstop
  | handle sub hd =>
      obtain ⟨hfound, hstep⟩ := Option.ite_none_right_eq_some.mp hstep
      obtain rfl := Option.some.inj hstep
      obtain ⟨-, mail, hsent⟩ := processSubscription_since dayjs h.tidy sub hd
      intro m hm
      rcases List.mem_append.mp hm with hold | hnew
      · exact hstop m hold
      · obtain ⟨e, he, rfl⟩ := List.mem_map.mp hnew
        rw [hsent] at he
        cases hout : goesOut s.reports sub hd with
        | false =>
            rw [hout] at he
            simp at he
        | true =>
            obtain ⟨current, hcurrent, hsame⟩ := current_of_goesOut h hfound hout
            exact decide_eq_false (hsame ▸ hquiet current hcurrent)

theorem startsNone_of_scheduled {s : ReportStore} {a : ReportAction} (ha : a.scheduled = true) :
    StartsNone host dayjs known s a := by
  cases a with
  | member a => exact nomatch ha
  | call workspaceId superAdmin r => exact nomatch ha
  | tick wait => trivial
  | handle sub hd => trivial

theorem startsNone_of_none {s : ReportStore} {a : ReportAction}
    (hstep : s.step host dayjs known a = none) : StartsNone host dayjs known s a := by
  cases a with
  | member a =>
      intro pair hpair
      obtain ⟨r, -, hends⟩ := Option.bind_eq_some_iff.mp hpair
      obtain ⟨hany, -⟩ := Option.ite_none_right_eq_some.mp hends
      rw [Option.map_eq_none_iff.mp hstep] at hany
      exact nomatch hany
  | call workspaceId superAdmin r =>
      intro hfresh
      have hcall : (if freshId s.reports.rows r.call = false then none
        else match callRow dayjs known s workspaceId superAdmin r with
          | none => some s
          | some row => some { s with reports := s.reports.insert row r.wait }) = none := hstep
      rw [hfresh, if_neg (by decide)] at hcall
      split at hcall <;> exact nomatch hcall
  | tick wait => trivial
  | handle sub hd => trivial

/-! ### Runs -/

/-- Every request of the handling succeeds. -/
def delivered : Handling where
  refetch := .ok ()
  user := .ok (some "ana@acme.io")
  smtpAvailable := .ok true
  generate := .ok "Yesterday"
  renderEmail := .ok "<p></p>"
  sendReport := .ok ()
  markSent := .ok 0
  auditSent := .ok ()
  markFailed := .ok 0
  auditFailed := .ok ()

theorem goesOut_delivered {s : SchedulerStore} {sub : Subscription}
    (hcurrent : isCurrent s.rows sub = true) : goesOut s sub delivered = true := by
  unfold goesOut
  rw [hcurrent]
  rfl

variable (host dayjs known) in
/-- What is active is mailed by the next tick that finds it due, member or not. -/
theorem mailed_of_active {s : ReportStore} (h : Valid s) {sub : Subscription}
    (hsub : sub ∈ activeRows s.reports.rows) :
    ∃ wait s', Machine.exec (fun s => s.step host dayjs known) s
        [.tick wait, .handle sub delivered] = some s' ∧
      ReportMail.mk sub.workspaceId sub.userId (sub.membership ∈ s.ended) ∈ s'.mails := by
  obtain ⟨slot, hslot⟩ := Option.isSome_iff_exists.mp (h.tidy.slots sub hsub)
  obtain ⟨hfinal, hactive⟩ := mem_activeRows.mp hsub
  refine ⟨(slot - s.reports.clock).toNat, ?_⟩
  have hdue : sub ∈ findDue s.reports.rows
      (s.reports.clock + (slot - s.reports.clock).toNat) := by
    rw [findDue, List.mem_insertionSort]
    refine List.mem_filter.mpr ⟨hfinal, decide_eq_true ⟨?_, hactive⟩⟩
    rw [hslot]
    exact decide_eq_true (by omega)
  -- the tick moves the clock on and finds it
  refine ⟨_, Machine.exec_cons_eq_some.mpr ⟨_, rfl, Machine.exec_cons_eq_some.mpr
    ⟨_, if_pos (List.mem_append_right _ hdue), rfl⟩⟩, ?_⟩
  have htidy : Tidy (SchedulerStore.mk s.reports.rows
      (s.reports.clock + (slot - s.reports.clock).toNat) s.reports.sent s.reports.ticks) := by
    refine ⟨h.tidy.oneKey, fun r hr => ?_, h.tidy.slots⟩
    have := h.tidy.past r hr
    show r.updatedAt ≤ s.reports.clock + (slot - s.reports.clock).toNat
    omega
  have hcurrent : isCurrent s.reports.rows sub = true := by
    unfold isCurrent
    rw [getById_of_active h.tidy.oneKey hsub]
    exact decide_eq_true ⟨hactive, rfl⟩
  obtain ⟨-, mail, hsent⟩ := processSubscription_since dayjs htidy sub delivered
  have hout : goesOut (SchedulerStore.mk s.reports.rows
      (s.reports.clock + (slot - s.reports.clock).toNat) s.reports.sent s.reports.ticks) sub
      delivered = true := goesOut_delivered hcurrent
  rw [if_pos hout] at hsent
  refine List.mem_append_right _ (List.mem_map.mpr ⟨⟨sub.id, sub.nextSendAt, mail⟩, ?_, rfl⟩)
  show _ ∈ List.drop s.reports.sent.length (processSubscription dayjs (SchedulerStore.mk
    s.reports.rows _ s.reports.sent s.reports.ticks) sub delivered).1.sent
  rw [hsent, List.drop_left]
  exact List.mem_singleton.mpr rfl

theorem init_valid (users : List UserRow) (clock : Int) :
    Valid (ReportStore.init users clock) ∧ EndedQuiet (ReportStore.init users clock) ∧
      ReportsStop (ReportStore.init users clock) :=
  ⟨⟨⟨fun _ hr => absurd hr List.not_mem_nil, fun _ hr => absurd hr List.not_mem_nil,
    fun _ hsub => absurd hsub List.not_mem_nil⟩, fun _ hsub => absurd hsub List.not_mem_nil⟩,
    fun _ hsub => absurd hsub List.not_mem_nil, fun _ hmail => absurd hmail List.not_mem_nil⟩

/-- A run that starts no report of a former member mails none. -/
theorem exec_stops {s s' : ReportStore} {as : List ReportAction} (h : Valid s)
    (hquiet : EndedQuiet s) (hstop : ReportsStop s)
    (hmeets : Machine.Meets (fun s => s.step host dayjs known) (StartsNone host dayjs known) s as)
    (hrun : Machine.exec (fun s => s.step host dayjs known) s as = some s') :
    ReportsStop s' := by
  refine (Machine.exec_invariant_of_meets (P := fun s => Valid s ∧ EndedQuiet s ∧ ReportsStop s)
    (fun s a s' ⟨hs, hq, hm⟩ hC hstep => ?_) ⟨h, hquiet, hstop⟩ hmeets hrun).2.2
  exact ⟨step_valid hs hstep, (step_quiet_iff hs hq hstep).mpr hC, step_stops hs hq hm hstep⟩

/-- **No tick that comes at any point of a run mails a former member exactly when every
membership of the run ends with no active subscription, and no former member starts one.** -/
theorem reports_stop_iff (users : List UserRow) (clock : Int) (actions : List ReportAction) :
    (∀ before ticks s, before <+: actions → (∀ t ∈ ticks, t.scheduled = true) →
      Machine.exec (fun s => s.step host dayjs known) (ReportStore.init users clock)
        (before ++ ticks) = some s → ReportsStop s) ↔
      Machine.Meets (fun s => s.step host dayjs known) (StartsNone host dayjs known)
        (ReportStore.init users clock) actions := by
  obtain ⟨hvalid, hquiet, hstop⟩ := init_valid users clock
  have hstarts : (∀ before s, before <+: actions →
      Machine.exec (fun s => s.step host dayjs known) (ReportStore.init users clock) before = some s →
        EndedQuiet s) ↔ Machine.Meets (fun s => s.step host dayjs known)
          (StartsNone host dayjs known) (ReportStore.init users clock) actions :=
    Machine.always_iff_meets (I := Valid) (fun s a s' hs hstep => step_valid hs hstep)
      (fun s a s' hs hq hstep => step_quiet_iff hs hq hstep)
      (fun s a hstep => startsNone_of_none hstep) hvalid hquiet
  rw [← hstarts]
  constructor
  · intro hall before s hbefore hrun sub hsub hended
    have hs : Valid s := Machine.exec_invariant (fun s a s' hs hstep => step_valid hs hstep)
      hvalid hrun
    obtain ⟨wait, s', hticks, hmail⟩ := mailed_of_active host dayjs known hs
      hsub
    have hformer := hall before _ s' hbefore (by simp [ReportAction.scheduled])
      (Machine.exec_append hrun hticks) _ hmail
    exact absurd hended (of_decide_eq_false hformer)
  · intro hall before ticks s hbefore hticks hrun
    obtain ⟨t, ht, hs⟩ := Machine.exec_of_append hrun
    have hmeets := (hstarts.mp hall)
    obtain ⟨rest, rfl⟩ := hbefore
    have hmeets' := (Machine.meets_append hmeets ht).1
    have ht' : Valid t := Machine.exec_invariant (fun s a s' hs hstep => step_valid hs hstep)
      hvalid ht
    have htq : EndedQuiet t := hall before t (List.prefix_append before rest) ht
    exact exec_stops ht' htq (exec_stops hvalid hquiet hstop hmeets' ht)
      (Machine.meets_of_forall fun a ha s => startsNone_of_scheduled (hticks a ha)) hs

end Step

namespace FormerExample

open OwnerExample

def report : CreateSubscriptionDto := { SlotExample.daily with workspaceId := "w1" }

/-- Bob subscribes to a daily report, Ada removes him, and the next tick mails it to him. -/
def removed : List ReportAction :=
  [.member (.createWorkspace "w1" "ada" "m1" 0), .member (invite "i1" "t1" 0),
    .member (accept "t1" "m2" 100), .call "w1" false ⟨0, .create report "bob" "r1" "UTC"⟩,
    .member (.remove ⟨"w1", "bob"⟩ ⟨"ada", .owner⟩), .tick 28800000,
    .handle (createdRow (fixedZones SlotExample.zones) report "bob" "r1" "UTC" 0) delivered]

theorem former_member_mailed :
    ∃ s, Machine.exec (fun s => s.step Host.bare (fixedZones SlotExample.zones) fun _ => true)
        (ReportStore.init users 0) removed = some s ∧
      membershipOf s.members.memberships "w1" "bob" = none ∧ ¬ReportsStop s :=
  ⟨_, rfl, by decide, by decide⟩

end FormerExample

end Veridian.Subscriptions
