/-
When the aggregates of a session are those of its last payload.

The stream of a session is what its requests emitted, one after the other.  The buffer
cuts it anywhere, so the last block that holds something of the session holds some
suffix of the stream; the surviving row counts that suffix.  It counts the last payload
exactly when the cut falls right in front of that payload and nowhere inside it.
-/
import Veridian.Events.SessionsView

namespace Veridian

open EventBuffer

/-! ### The requests of one session -/

/-- What the SDK promises of the payloads of one session. -/
structure SentBySdk (session : String) (requests : List Request) : Prop where
  session : ∀ r ∈ requests, r.payload.sessionId = session
  created : ∀ r ∈ requests, ∀ r' ∈ requests, r.payload.createdAt = r'.payload.createdAt
  updated : requests.Pairwise fun r r' => r.payload.updatedAt ≤ r'.payload.updatedAt
  pages : ∀ r ∈ requests, r.payload.pageNumbers.Nodup

/-- The clock correction is the same for all of them, in most cases none. -/
def SameSkew (requests : List Request) : Prop :=
  ∀ r ∈ requests, ∀ r' ∈ requests,
    appliedSkew r.payload r.arrival = appliedSkew r'.payload r'.arrival

/-- The goals of a payload are told apart by name and instant. -/
def GoalsDistinct (p : SessionPayload) : Prop :=
  p.goals.Pairwise fun a b => a.dedupToken p.sessionId ≠ b.dedupToken p.sessionId

/-- What the workspace accepted of the session is what the requests emitted, and all of
it has been inserted. -/
structure Delivered (host : Host) (s : EventBuffer) (w session : String)
    (requests : List Request) : Prop where
  accepted : (s.workspaces w).accepted.filter (·.sessionId = session) =
    requests.flatMap (·.events host)
  drained : ∀ e ∈ (s.workspaces w).inFlight.flatten ++ (s.workspaces w).buffer,
    e.sessionId ≠ session
  kept : ∀ events, Outcome.dropped events ∈ s.outcomes w → ∀ e ∈ events, e.sessionId ≠ session

theorem corrected_mono {t t' k : Int} (h : t ≤ t') : corrected t k ≤ corrected t' k := by
  unfold corrected correctTimestamp
  split <;> omega

/-! ### The stream -/

/-- Without drops, the inserted batches hold the events of the outcomes. -/
theorem filter_inserted {session : String} :
    ∀ {outcomes : List Outcome},
      (∀ events, Outcome.dropped events ∈ outcomes → ∀ e ∈ events, e.sessionId ≠ session) →
      (outcomes.flatMap Outcome.events).filter (·.sessionId = session) =
        ((outcomes.filterMap Outcome.insertedBatch).flatten).filter (·.sessionId = session) := by
  intro outcomes
  induction outcomes with
  | nil => intro _; rfl
  | cons o rest ih =>
      intro hkept
      have hrest := ih fun events h => hkept events (List.mem_cons_of_mem _ h)
      rw [List.flatMap_cons, List.filter_append, hrest]
      cases o with
      | inserted batch =>
          show _ = ((batch :: rest.filterMap Outcome.insertedBatch).flatten).filter _
          rw [List.flatten_cons, List.filter_append]
          rfl
      | dropped events =>
          show _ = ((rest.filterMap Outcome.insertedBatch).flatten).filter _
          have hnil : (Outcome.dropped events).events.filter (·.sessionId = session) = [] := by
            refine List.filter_eq_nil_iff.mpr fun e he => ?_
            simpa using hkept events (by simp) e he
          rw [hnil]
          rfl

namespace Delivered

variable {host : Host} {s : EventBuffer} {w session : String} {requests : List Request}

theorem inserted_filter {cap : Nat} {as : List BufferAction}
    (hrun : Machine.exec (step cap) .init as = some s)
    (h : Delivered host s w session requests) :
    (s.inserted w).flatten.filter (·.sessionId = session) = requests.flatMap (·.events host) := by
  rw [← h.accepted, (exec_accounted hrun w).conserved, List.append_assoc, List.filter_append,
    filter_inserted h.kept]
  have hnil : ((s.workspaces w).inFlight.flatten ++ (s.workspaces w).buffer).filter
      (·.sessionId = session) = [] := by
    refine List.filter_eq_nil_iff.mpr fun e he => ?_
    simpa using h.drained e he
  rw [hnil, List.append_nil]
  rfl

/-- What is inserted into a workspace was accepted by it. -/
theorem mem_inserted_workspace {cap : Nat} {as : List BufferAction}
    (hrun : Machine.exec (step cap) .init as = some s) :
    ∀ e ∈ (s.inserted w).flatten, e.workspaceId = w := by
  intro e he
  refine exec_accepted_workspace hrun w e ?_
  rw [(exec_accounted hrun w).conserved]
  obtain ⟨batch, hbatch, hin⟩ := List.mem_flatten.mp he
  obtain ⟨o, ho, hob⟩ := List.mem_filterMap.mp hbatch
  refine List.mem_append_left _ (List.mem_append_left _ (List.mem_flatMap.mpr ⟨o, ho, ?_⟩))
  cases o with
  | inserted batch' =>
      obtain rfl := Option.some.inj hob
      exact hin
  | dropped events => simp [Outcome.insertedBatch] at hob

end Delivered

/-! ### The surviving row -/

/-- The row of the session that survives, if it is the only one, tells the number of
pages and goals of the payload and what the goals are worth. -/
def AggregatesMatch (session : String) (blocks : List (List TrackingEvent)) (p : SessionPayload) :
    Prop :=
  ∃ row, sessionRows session blocks = [row] ∧
    row.pageviewCount = p.pageNumbers.dedup.length ∧
    row.goalCount = p.distinctGoals.length ∧
    row.goalValue = (p.distinctGoals.map fun g => g.value.getD 0).sum

/-- The last block with something of the session holds `events` of it and nothing else. -/
def LastBlockIs (session : String) (blocks : List (List TrackingEvent))
    (events : List TrackingEvent) : Prop :=
  (sessionParts session blocks).getLast? = some events

/-- The aggregates of a payload without doubled pages and goals fit their columns. -/
theorem payload_counts {p : SessionPayload} (hpages : p.pageNumbers.Nodup)
    (hgoals : GoalsDistinct p) :
    p.pageNumbers.dedup.length = p.pageNumbers.length ∧ p.distinctGoals = p.goals ∧
      p.pageNumbers.length < UINT16 ∧ p.goals.length < UINT16 := by
  have hle := p.actions_le
  have hp : p.pageNumbers.length ≤ p.actions.length := List.length_filterMap_le _ _
  have hg : p.goals.length ≤ p.actions.length := List.length_filterMap_le _ _
  unfold MAX_ACTIONS at hle
  unfold UINT16
  refine ⟨by rw [hpages.dedup], List.pwFilter_eq_self.mpr hgoals, by omega, by omega⟩

/-- The row of a stretch, when the counts fit. -/
theorem aggregateSession_counts {events : List TrackingEvent} (h : events ≠ []) :
    ∃ row, aggregateSession events = some row ∧
      row.pageviewCount = countNamed .screenView events % UINT16 ∧
      row.goalCount = countNamed .goal events % UINT16 ∧ row.goalValue = sumGoals events := by
  cases events with
  | nil => exact absurd rfl h
  | cons e rest => exact ⟨_, rfl, rfl, rfl, rfl⟩

section
variable {host : Host} {s : EventBuffer} {w session : String} {earlier : List Request}
  {last : Request}

/-- The row that survives is that of the last block. -/
theorem sessionRows_of_delivered {cap : Nat} {as : List BufferAction}
    (hrun : Machine.exec (step cap) .init as = some s)
    (hsdk : SentBySdk session (earlier ++ [last])) (hskew : SameSkew (earlier ++ [last]))
    (hdelivered : Delivered host s w session (earlier ++ [last]))
    {init : List (List TrackingEvent)} {block : List TrackingEvent}
    (hparts : sessionParts session (s.inserted w) = init ++ [block]) :
    sessionRows session (s.inserted w) = (aggregateSession block).toList := by
  have hstream := hdelivered.inserted_filter hrun
  have hlast : last ∈ earlier ++ [last] := by simp
  -- every event of the session has the corrected instants of its request
  have henvelope : ∀ e ∈ (s.inserted w).flatten.filter (·.sessionId = session),
      ∃ r ∈ earlier ++ [last], e.envelope = r.envelope := by
    intro e he
    rw [hstream] at he
    obtain ⟨r, hr, hin⟩ := List.mem_flatMap.mp he
    exact ⟨r, hr, Request.mem_events_envelope hin⟩
  have hcreated : ∀ e ∈ (s.inserted w).flatten, e.sessionId = session →
      e.createdAt = last.envelope.createdAt := by
    intro e he hs
    obtain ⟨r, hr, henv⟩ := henvelope e (List.mem_filter.mpr ⟨he, by simpa using hs⟩)
    have hcr : e.createdAt = r.envelope.createdAt := congrArg Envelope.createdAt henv
    rw [hcr]
    unfold Request.envelope
    simp only [hsdk.created r hr last hlast, hskew r hr last hlast]
  have hupdated : ((s.inserted w).flatten.filter (·.sessionId = session)).Pairwise
      fun x y => x.updatedAt ≤ y.updatedAt := by
    rw [hstream, List.pairwise_flatMap]
    have hinstant : ∀ r ∈ earlier ++ [last], ∀ e ∈ r.events host,
        e.updatedAt = r.envelope.updatedAt := fun r _ e he =>
      congrArg Envelope.updatedAt (Request.mem_events_envelope he)
    constructor
    · intro r hr
      refine List.Pairwise.imp_of_mem (R := fun _ _ => True) ?_
        (List.pairwise_of_forall fun _ _ => trivial)
      intro x y hx hy _
      rw [hinstant r hr x hx, hinstant r hr y hy]
    · refine List.Pairwise.imp_of_mem ?_ hsdk.updated
      intro r r' hr hr' hle x hx y hy
      rw [hinstant r hr x hx, hinstant r' hr' y hy]
      unfold Request.envelope
      simp only [hskew r hr r' hr']
      exact corrected_mono hle
  exact sessionRows_eq_last (Delivered.mem_inserted_workspace hrun) hcreated hupdated hparts

/-- Two ends of one stream with as many pages and as many goals are the same end. -/
theorem eq_of_same_counts {xs ys a b : List TrackingEvent} (hstream : xs ++ a = ys ++ b)
    (hnames : ∀ e ∈ ys ++ b, e.name = .screenView ∨ e.name = .goal)
    (hpages : countNamed .screenView a = countNamed .screenView b)
    (hgoals : countNamed .goal a = countNamed .goal b) : a = b := by
  have hleft : ∀ e ∈ a, e.name = .screenView ∨ e.name = .goal := fun e he =>
    hnames e (hstream ▸ List.mem_append_right xs he)
  have hright : ∀ e ∈ b, e.name = .screenView ∨ e.name = .goal := fun e he =>
    hnames e (List.mem_append_right ys he)
  have hlength : a.length = b.length := by
    rw [← countNamed_add_countNamed hleft, hpages, hgoals, countNamed_add_countNamed hright]
  exact (List.append_inj' hstream hlength).2

/-- Some block holds the end of what was delivered. -/
theorem Delivered.exists_last_part {cap : Nat} {as : List BufferAction}
    (hrun : Machine.exec (step cap) .init as = some s)
    (hdelivered : Delivered host s w session (earlier ++ [last]))
    (hhandled : last.events host ≠ []) :
    ∃ init block, sessionParts session (s.inserted w) =
        init ++ [block.filter (·.sessionId = session)] ∧
      block ∈ s.inserted w ∧ block.filter (·.sessionId = session) ≠ [] ∧
      init.flatten ++ block.filter (·.sessionId = session) =
        earlier.flatMap (·.events host) ++ last.events host := by
  have hstream : (sessionParts session (s.inserted w)).flatten =
      earlier.flatMap (·.events host) ++ last.events host := by
    rw [sessionParts_flatten, hdelivered.inserted_filter hrun, List.flatMap_append,
      List.flatMap_singleton]
  rcases List.eq_nil_or_concat (sessionParts session (s.inserted w)) with hnil | ⟨init, part, hparts⟩
  · rw [hnil] at hstream
    exact absurd (List.append_eq_nil_iff.mp hstream.symm).2 hhandled
  rw [List.concat_eq_append] at hparts
  have hmem : part ∈ sessionParts session (s.inserted w) := by
    rw [hparts]
    exact List.mem_append_right init List.mem_cons_self
  obtain ⟨hin, hne⟩ := List.mem_filter.mp hmem
  obtain ⟨block, hblock, rfl⟩ := List.mem_map.mp hin
  rw [hparts, List.flatten_append, List.flatten_singleton] at hstream
  exact ⟨init, block, hparts, hblock, of_decide_eq_true hne, hstream⟩

end

/-! ### Two payloads and the flush timer -/

namespace AggregatesExample

def workspace : Workspace where
  id := "w"
  status := .active
  settings := {}

def pageview (n : Nat) : Action := .pageview ⟨"/", n, 10, 50, 0, 10⟩

/-- The first heartbeat: one page. -/
def first : Request where
  workspace := workspace
  payload := { workspaceId := "w", sessionId := "s", createdAt := 0, updatedAt := 10
               actions := [pageview 1] }
  arrival := { version := 10, now := 10 }

/-- The second one repeats it and adds another. -/
def second : Request where
  workspace := workspace
  payload := { workspaceId := "w", sessionId := "s", createdAt := 0, updatedAt := 20
               actions := [pageview 1, pageview 2] }
  arrival := { version := 20, now := 20 }

/-- Both payloads within one flush interval. -/
def oneBlock : List BufferAction :=
  [.addBatch (first.events Host.bare), .resume 0, .addBatch (second.events Host.bare), .resume 1,
    .resume 1, .timer "w", .insertSucceeded "w" 0]

/-- A flush between the payloads. -/
def twoBlocks : List BufferAction :=
  [.addBatch (first.events Host.bare), .resume 0, .timer "w", .insertSucceeded "w" 0,
    .addBatch (second.events Host.bare), .resume 1, .resume 1, .timer "w", .insertSucceeded "w" 0]

theorem sentBySdk : SentBySdk "s" ([first] ++ [second]) := by
  refine ⟨?_, ?_, ?_, ?_⟩ <;> decide

theorem sameSkew : SameSkew ([first] ++ [second]) := by
  unfold SameSkew
  decide

theorem second_handled : second.events Host.bare ≠ [] := List.cons_ne_nil _ _

end AggregatesExample

end Veridian
