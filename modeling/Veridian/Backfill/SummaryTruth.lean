/-
When "no backfill needed" is true.

The flag compares the version of the workspace's filters with that of the last task that
completed.  It says nothing about the tasks that stopped midway, about rows that came in
under other filters, or about dimensions that the filters have stopped to write.  So it is
right as long as the filters never come back to a version they have left, every mutation
under filters that count leaves its rows as these filters have them, and a task that
completes has named the partition of every row of its lookback.

The invariant carries two things: the rows of the last completed task's lookback are as the
current filters have them, if the versions agree; and so are those of a task at work, but
for the rows it has still to come to.
-/
import Veridian.Backfill.SummaryRuns

namespace Veridian.BackfillSummaryRuns

variable {h : SummaryHost} {s s' : State}

/-! ### What the flag says -/

def version (h : SummaryHost) (filters : List StoredFilter) : String :=
  computeFilterVersion h.version h.md5 filters

/-- Every dimension that filters classify into holds what the filters give the row. -/
def Classified (h : SummaryHost) (filters : List StoredFilter) (row : TableRow) : Prop :=
  ∀ d ∈ WRITABLE_DIMENSIONS, d.isCustom = true →
    row.value d.column = .text (classOf h.host.regexTest (definitions filters) row.source d)

/-- The row is of a day in the task's lookback, or of a later one. -/
def WithinLookback (task : BackfillTask) (row : StoredRow) : Prop :=
  ∃ startedAt ∈ task.startedAt, utcDay startedAt - task.lookbackDays < row.day

/-- If the summary needs no backfill, the rows of the lookback are classified. -/
def SummaryHolds (h : SummaryHost) (s : State) : Prop :=
  ∀ summary,
    getBackfillSummary h.version h.md5 h.parse h.backend s.filters s.tasks = .ok summary →
    summary.needsBackfill = false → ∀ task ∈ lastCompleted s.tasks, ∀ row ∈ s.rows,
      WithinLookback task row → Classified h s.filters row.columns

/-! ### The condition -/

/-- A mutation with the filters leaves the row as the filters have it: the dimensions that
they do not write are empty, and rewriting the standard fields changes no class. -/
def Takes (h : SummaryHost) (filters : List StoredFilter) (row : TableRow) : Prop :=
  let engine := h.host.regexTest
  let filters := definitions filters
  ∀ d ∈ WRITABLE_DIMENSIONS, d.isCustom = true →
    (Targets filters d → classOf engine filters (rewritten engine filters row.source) d =
      classOf engine filters row.source d) ∧
    (¬Targets filters d → row.value d.column = .text "")

/-- The filters of the last completed task and of those at work. -/
def watched (h : SummaryHost) (s : State) : List (List StoredFilter) :=
  ((lastCompleted s.tasks).bind fun task => h.parse (snapshotText task)).toList ++
    (s.processors.filter fun p => !p.cancelled).filterMap fun p => p.work?.map (·.filters)

/-- One of them has the version of the current filters. -/
def Current (h : SummaryHost) (s : State) : Prop :=
  ∃ filters ∈ watched h s, version h filters = version h s.filters

/-- Where the version counts, a mutation is one with the current filters, on rows that take
them. -/
def MayRewrite (h : SummaryHost) (s : State) (filters : List StoredFilter) (m : Mutation)
    (killed : Option (List Nat)) : Prop :=
  Current h s → definitions filters = definitions s.filters ∧
    ∀ entry ∈ s.rows.zipIdx, entry.1.mutation = m → killed.all (entry.2 ∈ ·) = true →
      Takes h filters entry.1.columns

/-- The partitions that the task does not mutate again. -/
def skipped (mutated : Mutated) : BackfilledTable → List String
  | .events => []
  | .sessions => mutated.sessions
  | .goals => mutated.goals

/-- The partition of the row is that of one of the chunks. -/
def Named (chunks : List Int) (mutated : Mutated) (row : StoredRow) : Prop :=
  ∃ date ∈ chunks, row.mutation = row.table.mutation date ∧
    row.mutation.partition ∉ skipped mutated row.table

/--
* An edit does not come back to the version of the last completed task, or of one at work.
* A row comes in as the current filters have it, when the version counts.
* A task begins with chunks that name the partition of every row of its lookback, and
  finds the events of each chunk within the TTL.
* A mutation is as `MayRewrite` says, and is killed only under a cancelled processor.
* The row of `cancelTask` does not replace that of the last completed task.
-/
def Kept (h : SummaryHost) (s : State) : Action → Prop
  | .edit _ stored => ∀ filters ∈ watched h s, version h filters = version h stored →
      version h filters = version h s.filters ∧ definitions stored = definitions s.filters
  | .ingest table day event age => Current h s → ∀ filters ∈ (s.filters :: s.earlier)[age]?,
      Classified h s.filters (State.ingested h filters table day event).columns
  | .begin i now => ∀ p ∈ s.processors[i]?, p.cancelled = false →
      ∀ task ∈ s.tasks.find? fun t => t.id = p.taskId,
        ∀ filters ∈ h.parse task.filtersSnapshot, version h filters = version h s.filters →
          ∀ row ∈ s.rows, utcDay now - task.lookbackDays < row.day →
            Classified h s.filters row.columns ∨
              Named (generateDateChunks task.lookbackDays task.chunkSizeDays now) {} row
  | .iterate i now => ∀ p ∈ s.processors[i]?, ∀ work ∈ p.work?,
      version h work.filters = version h s.filters → ∀ date ∈ work.chunks.head?,
        isWithinEventsTTL now date = true ∨ ∀ row ∈ s.rows,
          row.mutation = BackfilledTable.events.mutation date → Classified h s.filters row.columns
  | .mutate i killed => ∀ p ∈ s.processors[i]?, ∀ work ∈ p.work?, ∀ m ∈ work.todo.head?,
      (p.cancelled = false → killed = none) ∧ MayRewrite h s work.filters m killed
  | .fail i reached _ _ => ∀ p ∈ s.processors[i]?, ∀ work ∈ p.work?, ∀ m ∈ work.todo.head?,
      MayRewrite h s work.filters m (some reached)
  | .cancelLand taskId _ => ∀ task ∈ lastCompleted s.tasks, task.id ≠ taskId
  | _ => True

/-! ### Rows that are classified -/

theorem Classified.congr {filters filters' : List StoredFilter} {row : TableRow}
    (hc : Classified h filters row) (heq : definitions filters = definitions filters') :
    Classified h filters' row := by
  intro d hd hcustom
  rw [← heq]
  exact hc d hd hcustom

theorem classOf_of_not_targets {engine : String → String → Bool}
    {filters : List FilterDefinition} {d : WritableDimension} (hd : ¬Targets filters d)
    (source : SourceField → Sql.Value) : classOf engine filters source d = "" := by
  rw [classOf, deciding_of_not_targets hd]
  rfl

/-- **A row that takes the filters is classified once it is rewritten.** -/
theorem Takes.classified {filters : List StoredFilter} {row : TableRow}
    (htakes : Takes h filters row) :
    Classified h filters (backfill h.host.regexTest (definitions filters) row) := by
  intro d hd hcustom
  obtain ⟨htargets, hother⟩ := htakes d hd hcustom
  by_cases h₁ : Targets (definitions filters) d
  · rw [backfill_of_targets hcustom h₁, backfill_source, htargets h₁]
  · rw [backfill_of_not_targets h₁, hother h₁, classOf_of_not_targets h₁]

/-- A list that writes nothing it reads is taken by every row that has no other class. -/
theorem takes_of_unread {filters : List StoredFilter} {row : TableRow}
    (hunread : ¬WritesRead (definitions filters) (definitions filters))
    (hempty : ∀ d, d.isCustom = true → ¬Targets (definitions filters) d →
      row.value d.column = .text "") : Takes h filters row := by
  intro d _ hcustom
  refine ⟨fun htargets => ?_, hempty d hcustom⟩
  exact classifiesAlike_of_unread hunread h.host.regexTest row d hcustom htargets

/-- With chunks of one day every row of the lookback is named. -/
theorem named_of_daily {lookback c now : Nat} (hc : 1 ≤ c) (hstep : lookback = 1 ∨ c = 1)
    {row : StoredRow} (hlow : utcDay now - lookback < row.day) (hhigh : row.day ≤ utcDay now) :
    Named (generateDateChunks lookback c now) {} row := by
  refine ⟨row.day, mem_chunks_of_inLookback hc hstep ⟨hlow, hhigh⟩, rfl, ?_⟩
  cases row.table <;> exact List.not_mem_nil

/-! ### Tasks -/

theorem mem_updateTask (taskId : String) (f : BackfillTask → BackfillTask)
    {tasks : List BackfillTask} {task : BackfillTask} (hmem : task ∈ tasks) :
    (if task.id = taskId then f task else task) ∈ updateTask taskId f tasks :=
  List.mem_map.mpr ⟨task, hmem, rfl⟩

theorem ids_updateTask (taskId : String) (f : BackfillTask → BackfillTask)
    (hf : ∀ t, (f t).id = t.id) (tasks : List BackfillTask) :
    (updateTask taskId f tasks).map (·.id) = tasks.map (·.id) := by
  rw [updateTask, List.map_map]
  refine List.map_congr_left fun t _ => ?_
  show (if t.id = taskId then f t else t).id = t.id
  split
  · exact hf t
  · rfl

theorem eq_of_id {tasks : List BackfillTask} (hnodup : (tasks.map (·.id)).Nodup)
    {t t' : BackfillTask} (ht : t ∈ tasks) (ht' : t' ∈ tasks) (hid : t.id = t'.id) : t = t' :=
  List.inj_on_of_nodup_map hnodup ht ht' hid

theorem mem_of_lastCompleted {tasks : List BackfillTask} {task : BackfillTask}
    (hlast : task ∈ lastCompleted tasks) : task ∈ tasks ∧ task.status = .completed := by
  refine ⟨List.mem_of_find?_eq_some hlast, ?_⟩
  have hdone := List.find?_some hlast
  exact of_decide_eq_true hdone

theorem lastCompleted_of_done {t : BackfillTask} (hdone : t.status = .completed)
    (rest : List BackfillTask) : lastCompleted (t :: rest) = some t :=
  List.find?_cons_of_pos (p := fun t : BackfillTask => t.status = .completed)
    (decide_eq_true hdone)

theorem lastCompleted_of_open {t : BackfillTask} (hopen : t.status ≠ .completed)
    (rest : List BackfillTask) : lastCompleted (t :: rest) = lastCompleted rest :=
  List.find?_cons_of_neg (p := fun t : BackfillTask => t.status = .completed)
    (by simpa using hopen)

theorem updateTask_cons (taskId : String) (f : BackfillTask → BackfillTask) (t : BackfillTask)
    (rest : List BackfillTask) : updateTask taskId f (t :: rest) =
      (if t.id = taskId then f t else t) :: updateTask taskId f rest := rfl

/-- A row that is no `completed` one, for a task that is not the last completed. -/
theorem lastCompleted_updateTask {taskId : String} {f : BackfillTask → BackfillTask}
    (hf : ∀ t, (f t).status ≠ .completed) {tasks : List BackfillTask} :
    (∀ t ∈ lastCompleted tasks, t.id ≠ taskId) →
      lastCompleted (updateTask taskId f tasks) = lastCompleted tasks := by
  induction tasks with
  | nil => intro _; rfl
  | cons t rest ih =>
      intro hne
      rw [updateTask_cons]
      by_cases hdone : t.status = .completed
      · rw [lastCompleted_of_done hdone] at hne ⊢
        rw [if_neg (hne t rfl), lastCompleted_of_done hdone]
      · rw [lastCompleted_of_open hdone] at hne ⊢
        by_cases hid : t.id = taskId
        · rw [if_pos hid, lastCompleted_of_open (hf t)]
          exact ih hne
        · rw [if_neg hid, lastCompleted_of_open hdone]
          exact ih hne

/-- A `completed` row makes its task the last completed one, or nothing changes. -/
theorem lastCompleted_complete {taskId : String} {f : BackfillTask → BackfillTask}
    {tasks : List BackfillTask} {task : BackfillTask} (hf : ∀ t, (f t).status = .completed) :
    task ∈ lastCompleted (updateTask taskId f tasks) →
      (∃ t ∈ tasks, t.id = taskId ∧ task = f t) ∨ task ∈ lastCompleted tasks := by
  induction tasks with
  | nil => intro hlast; exact nomatch hlast
  | cons t rest ih =>
      intro hlast
      rw [updateTask_cons] at hlast
      by_cases hid : t.id = taskId
      · rw [if_pos hid, lastCompleted_of_done (hf t)] at hlast
        exact Or.inl ⟨t, List.mem_cons_self, hid, (Option.some.inj hlast).symm⟩
      · rw [if_neg hid] at hlast
        by_cases hdone : t.status = .completed
        · rw [lastCompleted_of_done hdone] at hlast ⊢
          exact Or.inr hlast
        · rw [lastCompleted_of_open hdone] at hlast ⊢
          refine (ih hlast).imp (fun hnew => ?_) id
          obtain ⟨t', ht', hid', heq⟩ := hnew
          exact ⟨t', List.mem_cons_of_mem _ ht', hid', heq⟩

/-! ### Rows and chunks -/

theorem mutation_table (table : BackfilledTable) (day : Int) :
    (table.mutation day).table = table := by
  cases table <;> rfl

/-- A rewritten row is the row as the filters make it, or the row it was. -/
theorem rewriteRow_cases (engine : String → String → Bool) (filters : List StoredFilter)
    (m : Mutation) (killed : Option (List Nat)) (entry : StoredRow × Nat) :
    (rewriteRow engine filters m killed entry).mutation = entry.1.mutation ∧
      (rewriteRow engine filters m killed entry).table = entry.1.table ∧
      (rewriteRow engine filters m killed entry).day = entry.1.day ∧
      (entry.1.mutation = m ∧ killed.all (entry.2 ∈ ·) = true ∧
          (rewriteRow engine filters m killed entry).columns =
            backfill engine (definitions filters) entry.1.columns ∨
        ¬(entry.1.mutation = m ∧ killed.all (entry.2 ∈ ·) = true) ∧
          rewriteRow engine filters m killed entry = entry.1) := by
  unfold rewriteRow
  by_cases hreached : entry.1.mutation = m ∧ killed.all (entry.2 ∈ ·) = true
  · rw [if_pos hreached]
    exact ⟨rfl, rfl, rfl, Or.inl ⟨hreached.1, hreached.2, rfl⟩⟩
  · rw [if_neg hreached]
    exact ⟨rfl, rfl, rfl, Or.inr ⟨hreached, rfl⟩⟩

/-- The row is still to be rewritten. -/
def Work.Pending (work : Work) (row : StoredRow) : Prop :=
  row.mutation ∈ work.todo ∨ Named work.chunks work.mutated row

theorem mem_chunkMutations {now : Nat} {mutated : Mutated} {date : Int} {table : BackfilledTable}
    (hskip : (table.mutation date).partition ∉ skipped mutated table)
    (httl : table = .events → isWithinEventsTTL now date = true) :
    table.mutation date ∈ chunkMutations now mutated date := by
  unfold chunkMutations
  cases table with
  | events =>
      rw [if_pos (httl rfl)]
      simp [BackfilledTable.mutation]
  | sessions =>
      have hnew : formatMonthlyPartition date ∉ mutated.sessions := hskip
      simp [BackfilledTable.mutation, hnew]
  | goals =>
      have hnew : formatMonthlyPartition date ∉ mutated.goals := hskip
      simp [BackfilledTable.mutation, hnew]

theorem mem_skipped_noted {mutated : Mutated} {m : Mutation} {table : BackfilledTable}
    {partition : String} (hmem : partition ∈ skipped (noted mutated m) table) :
    partition ∈ skipped mutated table ∨ m = ⟨table, partition⟩ := by
  obtain ⟨mtable, mpartition⟩ := m
  cases table <;> cases mtable <;>
    simp only [skipped, noted, mem_mutateOnce] at hmem ⊢ <;>
    simp_all [eq_comm]

/-- The head of the loop leaves nothing behind, the events past their TTL apart. -/
theorem Work.Pending.iterate {filters : List StoredFilter} {date : Int} {rest : List Int}
    {mutated : Mutated} {row : StoredRow} {now : Nat}
    (hpending : (Work.mk filters [] (date :: rest) mutated).Pending row)
    (httl : isWithinEventsTTL now date = true ∨
      row.mutation ≠ BackfilledTable.events.mutation date) :
    (Work.mk filters (chunkMutations now mutated date) rest mutated).Pending row := by
  rcases hpending with htodo | ⟨day, hday, hmutation, hskip⟩
  · exact absurd htodo List.not_mem_nil
  · rcases List.mem_cons.mp hday with rfl | hrest
    · refine Or.inl ?_
      rw [hmutation] at hskip ⊢
      refine mem_chunkMutations hskip fun hevents => ?_
      rw [hevents] at hmutation
      exact httl.resolve_right fun hne => hne hmutation
    · exact Or.inr ⟨day, hrest, hmutation, hskip⟩

/-- A mutation takes its own rows off. -/
theorem Work.Pending.mutate {filters : List StoredFilter} {m : Mutation} {todo : List Mutation}
    {chunks : List Int} {mutated : Mutated} {row : StoredRow}
    (hpending : (Work.mk filters (m :: todo) chunks mutated).Pending row) :
    row.mutation = m ∨ (Work.mk filters todo chunks (noted mutated m)).Pending row := by
  rcases hpending with htodo | ⟨day, hday, hmutation, hskip⟩
  · exact (List.mem_cons.mp htodo).imp id Or.inl
  · by_cases hnoted : row.mutation.partition ∈ skipped (noted mutated m) row.table
    · refine Or.inl ?_
      rcases mem_skipped_noted hnoted with hold | rfl
      · exact absurd hold hskip
      · have htable : row.mutation.table = row.table := by
          rw [hmutation]
          exact mutation_table _ _
        rw [← htable]
    · exact Or.inr (Or.inr ⟨day, hday, hmutation, hnoted⟩)

/-! ### The invariant -/

/-- The rows of the task's lookback are as the filters have them, or still to be rewritten. -/
def Held (h : SummaryHost) (s : State) (task : BackfillTask) (pending : StoredRow → Prop) : Prop :=
  ∀ row ∈ s.rows, WithinLookback task row → Classified h s.filters row.columns ∨ pending row

/-- A processor that has not been cancelled, with the work it has before it. -/
def HeldBy (h : SummaryHost) (s : State) (p : Processor) (work : Work) : Prop :=
  ∃ task ∈ s.tasks, task.id = p.taskId ∧ h.parse (snapshotText task) = some work.filters ∧
    (version h work.filters = version h s.filters → Held h s task work.Pending)

/-- What holds of the system when every step meets the condition. -/
structure Sound (h : SummaryHost) (s : State) : Prop where
  ids : (s.tasks.map (·.id)).Nodup
  single : (s.processors.map (·.taskId)).Nodup
  known : ∀ p ∈ s.processors, ∃ task ∈ s.tasks, task.id = p.taskId ∧ task.status ≠ .completed
  last : ∀ task ∈ lastCompleted s.tasks, ∀ filters ∈ h.parse (snapshotText task),
    version h filters = version h s.filters → Held h s task fun _ => False
  work : ∀ p ∈ s.processors, ∀ work ∈ p.work?, p.cancelled = false → HeldBy h s p work

theorem mem_watched_of_last {task : BackfillTask} {filters : List StoredFilter}
    (hlast : task ∈ lastCompleted s.tasks) (hparse : filters ∈ h.parse (snapshotText task)) :
    filters ∈ watched h s := by
  refine List.mem_append.mpr (Or.inl (Option.mem_toList.mpr ?_))
  exact Option.bind_eq_some_iff.mpr ⟨task, hlast, hparse⟩

theorem mem_watched_of_work {p : Processor} {work : Work} (hp : p ∈ s.processors)
    (hwork : work ∈ p.work?) (hgoes : p.cancelled = false) : work.filters ∈ watched h s := by
  refine List.mem_append.mpr (Or.inr (List.mem_filterMap.mpr ⟨p, ?_, ?_⟩))
  · exact List.mem_filter.mpr ⟨hp, by rw [hgoes]; rfl⟩
  · rw [Option.mem_def.mp hwork]
    rfl

/-- The task of a processor is not the last completed one. -/
theorem Sound.last_ne (hs : Sound h s) {p : Processor} (hp : p ∈ s.processors) :
    ∀ task ∈ lastCompleted s.tasks, task.id ≠ p.taskId := by
  intro task hlast hid
  obtain ⟨hmem, hdone⟩ := mem_of_lastCompleted hlast
  obtain ⟨own, hown, hownid, hopen⟩ := hs.known p hp
  obtain rfl := eq_of_id hs.ids hmem hown (hid.trans hownid.symm)
  exact hopen hdone

/-! ### What a step can do -/

/-- **The filters change**, or stay: what is held is held of lists with the same filters. -/
theorem Sound.edit (hs : Sound h s) {stored : List StoredFilter}
    {earlier : List (List StoredFilter)}
    (hkept : ∀ filters ∈ watched h s, version h filters = version h stored →
      version h filters = version h s.filters ∧ definitions stored = definitions s.filters) :
    Sound h { s with filters := stored, earlier := earlier } := by
  have hheld : ∀ {task pending}, definitions stored = definitions s.filters →
      Held h s task pending →
        Held h { s with filters := stored, earlier := earlier } task pending := by
    intro task pending heq hheld row hrow hwithin
    exact (hheld row hrow hwithin).imp (fun hc => hc.congr heq.symm) id
  refine ⟨hs.ids, hs.single, hs.known, fun task hlast filters hparse hversion => ?_,
    fun p hp work hwork hgoes => ?_⟩
  · obtain ⟨hcurrent, heq⟩ := hkept filters (mem_watched_of_last hlast hparse) hversion
    exact hheld heq (hs.last task hlast filters hparse hcurrent)
  · obtain ⟨task, htask, hid, hparse, hrows⟩ := hs.work p hp work hwork hgoes
    refine ⟨task, htask, hid, hparse, fun hversion => ?_⟩
    obtain ⟨hcurrent, heq⟩ := hkept _ (mem_watched_of_work hp hwork hgoes) hversion
    exact hheld heq (hrows hcurrent)

/-- **The rows change**: every new row is classified, or stands for an old one of its day that
was as good. -/
theorem Sound.setRows (hs : Sound h s) {rows : List StoredRow}
    (hrows : Current h s → ∀ row ∈ rows, Classified h s.filters row.columns ∨
      ∃ old ∈ s.rows, row.mutation = old.mutation ∧ row.table = old.table ∧ row.day = old.day ∧
        (Classified h s.filters old.columns → Classified h s.filters row.columns)) :
    Sound h { s with rows := rows } := by
  have hheld : ∀ {task : BackfillTask} {pending pending' : StoredRow → Prop}, Current h s →
      (∀ row old : StoredRow, row.mutation = old.mutation → row.table = old.table →
        pending old → pending' row) →
      Held h s task pending → Held h { s with rows := rows } task pending' := by
    intro task pending pending' hcurrent hpending hheld row hrow hwithin
    rcases hrows hcurrent row hrow with hc | ⟨old, hold, hmutation, htable, hday, hc⟩
    · exact Or.inl hc
    · obtain ⟨startedAt, hstarted, hlow⟩ := hwithin
      refine (hheld old hold ⟨startedAt, hstarted, hday ▸ hlow⟩).imp hc fun hp => ?_
      exact hpending row old hmutation htable hp
  refine ⟨hs.ids, hs.single, hs.known, fun task hlast filters hparse hversion => ?_,
    fun p hp work hwork hgoes => ?_⟩
  · have hcurrent : Current h s := ⟨filters, mem_watched_of_last hlast hparse, hversion⟩
    exact hheld hcurrent (fun _ _ _ _ hno => hno) (hs.last task hlast filters hparse hversion)
  · obtain ⟨task, htask, hid, hparse, hrows'⟩ := hs.work p hp work hwork hgoes
    refine ⟨task, htask, hid, hparse, fun hversion => ?_⟩
    have hcurrent : Current h s := ⟨work.filters, mem_watched_of_work hp hwork hgoes, hversion⟩
    refine hheld hcurrent (fun row old hmutation htable hp => ?_) (hrows' hversion)
    unfold Work.Pending Named at hp ⊢
    rw [hmutation, htable]
    exact hp

/-- **A mutation**, to its end or killed. -/
theorem Sound.rewrite (hs : Sound h s) {filters : List StoredFilter} {m : Mutation}
    {killed : Option (List Nat)} (hmay : MayRewrite h s filters m killed) :
    Sound h { s with rows := rewriteRows h.host.regexTest filters m killed s.rows } := by
  refine hs.setRows fun hcurrent row hrow => ?_
  obtain ⟨heq, htakes⟩ := hmay hcurrent
  obtain ⟨entry, hentry, rfl⟩ := List.mem_map.mp hrow
  obtain ⟨hmutation, htable, hday, hcases⟩ :=
    rewriteRow_cases h.host.regexTest filters m killed entry
  rcases hcases with ⟨hm, hreached, hcolumns⟩ | ⟨-, hkept⟩
  · refine Or.inl ?_
    rw [hcolumns]
    exact (htakes entry hentry hm hreached).classified.congr heq
  · refine Or.inr ⟨entry.1, List.fst_mem_of_mem_zipIdx hentry, hmutation, htable, hday, ?_⟩
    rw [hkept]
    exact id

/-- **A row of a task** that does not complete it. -/
theorem Sound.touch (hs : Sound h s) {taskId : String} {f : BackfillTask → BackfillTask}
    (hid : ∀ t, (f t).id = t.id) (hsnapshot : ∀ t, snapshotText (f t) = snapshotText t)
    (hlookback : ∀ t, (f t).lookbackDays = t.lookbackDays)
    (hopen : ∀ t, (f t).status ≠ .completed)
    (hlast : ∀ task ∈ lastCompleted s.tasks, task.id ≠ taskId)
    (hstarted : (∀ t, (f t).startedAt = t.startedAt) ∨
      ∀ p ∈ s.processors, p.taskId = taskId → p.work? = none) :
    Sound h { s with tasks := updateTask taskId f s.tasks } := by
  refine ⟨?_, hs.single, fun p hp => ?_, ?_, fun p hp work hwork hgoes => ?_⟩
  · rw [ids_updateTask taskId f hid]
    exact hs.ids
  · obtain ⟨task, htask, htaskId, hstatus⟩ := hs.known p hp
    refine ⟨_, mem_updateTask taskId f htask, ?_, ?_⟩
    · split
      · exact (hid task).trans htaskId
      · exact htaskId
    · split
      · exact hopen task
      · exact hstatus
  · rw [lastCompleted_updateTask hopen hlast]
    exact hs.last
  · obtain ⟨task, htask, htaskId, hparse, hheld⟩ := hs.work p hp work hwork hgoes
    refine ⟨_, mem_updateTask taskId f htask, ?_⟩
    by_cases hown : task.id = taskId
    · have hkeeps : ∀ t, (f t).startedAt = t.startedAt := by
        refine hstarted.resolve_right fun hnone => ?_
        rw [hnone p hp (htaskId.symm.trans hown)] at hwork
        exact nomatch hwork
      rw [if_pos hown]
      refine ⟨(hid task).trans htaskId, (congrArg h.parse (hsnapshot task)).trans hparse, ?_⟩
      intro hversion row hrow ⟨startedAt, hmem, hlow⟩
      rw [hkeeps] at hmem
      rw [hlookback] at hlow
      exact hheld hversion row hrow ⟨startedAt, hmem, hlow⟩
    · rw [if_neg hown]
      exact ⟨htaskId, hparse, hheld⟩

/-- **A processor goes on.** -/
theorem Sound.setProcessor (hs : Sound h s) {i : Nat} {p p' : Processor}
    (hp : s.processors[i]? = some p) (hid : p'.taskId = p.taskId)
    (hwork : ∀ work ∈ p'.work?, p'.cancelled = false → HeldBy h s p' work) :
    Sound h { s with processors := s.processors.set i p' } := by
  have hmem := List.mem_of_getElem? hp
  refine ⟨hs.ids, ?_, fun q hq => ?_, hs.last, fun q hq => ?_⟩
  · obtain ⟨hi, rfl⟩ := List.getElem?_eq_some_iff.mp hp
    have hids : (s.processors.set i p').map (·.taskId) = s.processors.map (·.taskId) := by
      rw [List.map_set, hid]
      refine List.ext_getElem? fun j => ?_
      rw [List.getElem?_set]
      split
      · rename_i hij
        subst hij
        simp [hi]
      · rfl
    show ((s.processors.set i p').map (·.taskId)).Nodup
    rw [hids]
    exact hs.single
  · rcases List.mem_or_eq_of_mem_set hq with hold | rfl
    · exact hs.known q hold
    · rw [hid]
      exact hs.known p hmem
  · rcases List.mem_or_eq_of_mem_set hq with hold | rfl
    · exact hs.work q hold
    · exact hwork

/-- **A processor is gone.** -/
theorem Sound.erase (hs : Sound h s) (i : Nat) :
    Sound h { s with processors := s.processors.eraseIdx i } := by
  refine ⟨hs.ids, ?_, fun q hq => ?_, hs.last, fun q hq => ?_⟩
  · exact hs.single.sublist (List.Sublist.map _ (List.eraseIdx_sublist _ _))
  · exact hs.known q (List.mem_of_mem_eraseIdx hq)
  · exact hs.work q (List.mem_of_mem_eraseIdx hq)

/-- The other processors have other tasks. -/
theorem Sound.taskId_ne (hs : Sound h s) {i : Nat} {p q : Processor}
    (hp : s.processors[i]? = some p) (hq : q ∈ s.processors.eraseIdx i) : q.taskId ≠ p.taskId := by
  obtain ⟨j, hj, hqj⟩ := List.mem_eraseIdx_iff_getElem?.mp hq
  intro hid
  have hlength : j < (s.processors.map (·.taskId)).length := by
    rw [List.length_map]
    exact (List.getElem?_eq_some_iff.mp hqj).1
  refine hj ((List.getElem?_inj hlength hs.single).mp ?_)
  rw [List.getElem?_map, List.getElem?_map, hqj, hp]
  exact congrArg some hid

/-- **A task ends** that is not completed. -/
theorem Sound.stop (hs : Sound h s) {i : Nat} {p : Processor} (hp : s.processors[i]? = some p)
    {status : BackfillTaskStatus} (hstatus : status ≠ .completed) (message : Option String)
    (now : Int) : Sound h (s.ended i p.taskId status message now) := by
  have hrow := hs.touch (f := fun t => updateTaskStatus now t status message) (fun _ => rfl)
    (fun _ => rfl) (fun _ => rfl) (fun _ => hstatus) (hs.last_ne (List.mem_of_getElem? hp))
    (Or.inl fun _ => rfl)
  exact hrow.erase i

/-- **A task completes** with nothing left to rewrite. -/
theorem Sound.complete (hs : Sound h s) {i : Nat} {taskId : String}
    {filters : List StoredFilter} {mutated : Mutated}
    (hp : s.processors[i]? = some ⟨taskId, .working ⟨filters, [], [], mutated⟩, false⟩)
    (message : Option String) (now : Int) :
    Sound h (s.ended i taskId .completed message now) := by
  have hmem := List.mem_of_getElem? hp
  have hother : ∀ q ∈ s.processors.eraseIdx i, ∀ task : BackfillTask, task.id = q.taskId →
      task.id ≠ taskId := fun q hq task hid => hid ▸ hs.taskId_ne hp hq
  refine ⟨?_, (hs.erase i).single, fun q hq => ?_, fun task hlast fs hparse hversion => ?_,
    fun q hq work hwork hgoes => ?_⟩
  · have hids := ids_updateTask taskId (fun t => updateTaskStatus now t .completed message)
      (fun _ => rfl) s.tasks
    show ((updateTask taskId _ s.tasks).map (·.id)).Nodup
    rw [hids]
    exact hs.ids
  · obtain ⟨task, htask, hid, hstatus⟩ := (hs.erase i).known q hq
    have hmem' := mem_updateTask taskId (fun t => updateTaskStatus now t .completed message) htask
    rw [if_neg (hother q hq task hid)] at hmem'
    exact ⟨task, hmem', hid, hstatus⟩
  · rcases lastCompleted_complete (fun _ => rfl) hlast with ⟨old, hold, hid, rfl⟩ | hsame
    · obtain ⟨own, hown, hownId, hparse', hheld⟩ := hs.work _ hmem _ rfl rfl
      obtain rfl := eq_of_id hs.ids hold hown (hid.trans hownId.symm)
      obtain rfl : filters = fs := Option.some.inj (hparse'.symm.trans hparse)
      intro row hrow hwithin
      refine (hheld hversion row hrow hwithin).imp id fun hpending => ?_
      rcases hpending with htodo | ⟨day, hday, -⟩
      · exact nomatch htodo
      · exact nomatch hday
    · exact hs.last task hsame fs hparse hversion
  · obtain ⟨task, htask, hid, hrest⟩ := (hs.erase i).work q hq work hwork hgoes
    have hmem' := mem_updateTask taskId (fun t => updateTaskStatus now t .completed message) htask
    rw [if_neg (hother q hq task hid)] at hmem'
    exact ⟨task, hmem', hid, hrest⟩

/-! ### The steps -/

theorem Sound.ingest (hs : Sound h s) {table : BackfilledTable} {day : Int}
    {event : TrackingEvent} {age : Nat} (hkept : Kept h s (.ingest table day event age))
    (hstep : s.ingest h table day event age = some s') : Sound h s' := by
  obtain ⟨filters, hfilters, rfl⟩ := Option.map_eq_some_iff.mp hstep
  refine hs.setRows fun hcurrent row hrow => ?_
  rcases List.mem_append.mp hrow with hold | hnew
  · exact Or.inr ⟨row, hold, rfl, rfl, rfl, id⟩
  · rw [List.mem_singleton.mp hnew]
    exact Or.inl (hkept hcurrent filters hfilters)

theorem Sound.startBackfill (hs : Sound h s) {taskId : String}
    {dto : BackfillRows.StartBackfillDto} {now : Int}
    (hstep : s.startBackfill h taskId dto now = some s') : Sound h s' := by
  unfold State.startBackfill at hstep
  split at hstep
  · exact nomatch hstep
  rename_i hfree
  obtain rfl := Option.some.inj hstep
  have hnew : ∀ t ∈ s.tasks, t.id ≠ taskId := fun t ht hid => hfree (Or.inr ⟨t, ht, hid⟩)
  have hlast : lastCompleted
      (BackfillRows.newTask taskId dto now (h.stringify s.filters) :: s.tasks) =
        lastCompleted s.tasks := lastCompleted_of_open (by intro hdone; exact nomatch hdone) _
  refine ⟨?_, ?_, fun p hp => ?_, ?_, fun p hp work hwork hgoes => ?_⟩
  · refine List.nodup_cons.mpr ⟨fun hmem => ?_, hs.ids⟩
    obtain ⟨t, ht, hid⟩ := List.mem_map.mp hmem
    exact hnew t ht hid
  · show List.Nodup ((s.processors ++ _).map Processor.taskId)
    rw [List.map_append]
    refine List.nodup_append.mpr ⟨hs.single, List.nodup_singleton _, fun a ha b hb => ?_⟩
    obtain ⟨p, hp, rfl⟩ := List.mem_map.mp ha
    obtain ⟨t, ht, hid, -⟩ := hs.known p hp
    rw [List.mem_singleton.mp hb, ← hid]
    exact hnew t ht
  · rcases List.mem_append.mp hp with hold | hlate
    · obtain ⟨t, ht, hrest⟩ := hs.known p hold
      exact ⟨t, List.mem_cons_of_mem _ ht, hrest⟩
    · rw [List.mem_singleton.mp hlate]
      exact ⟨_, List.mem_cons_self, rfl, by intro hdone; exact nomatch hdone⟩
  · rw [hlast]
    exact hs.last
  · rcases List.mem_append.mp hp with hold | hlate
    · obtain ⟨t, ht, hrest⟩ := hs.work p hold work hwork hgoes
      exact ⟨t, List.mem_cons_of_mem _ ht, hrest⟩
    · rw [List.mem_singleton.mp hlate] at hwork
      exact nomatch hwork

theorem Sound.fire (hs : Sound h s) {i : Nat} (hstep : s.fire i = some s') : Sound h s' := by
  unfold State.fire at hstep
  split at hstep
  · rename_i hp
    obtain rfl := Option.some.inj hstep
    exact hs.setProcessor hp rfl fun _ hwork => nomatch hwork
  · exact nomatch hstep

/-- The text that is parsed is the one the summary parses. -/
theorem snapshotText_of_parse {task : BackfillTask} {filters : List StoredFilter}
    (hparse : h.parse task.filtersSnapshot = some filters) :
    snapshotText task = task.filtersSnapshot := by
  unfold snapshotText
  rw [if_neg]
  intro hempty
  rw [hempty, h.parse_empty] at hparse
  exact nomatch hparse

theorem Sound.begin (hs : Sound h s) {i now : Nat} (hkept : Kept h s (.begin i now))
    (hstep : s.begin h i now = some s') : Sound h s' := by
  unfold State.begin at hstep
  split at hstep
  · rename_i taskId cancelled hp
    split at hstep
    · exact nomatch hstep
    · rename_i task htask
      obtain ⟨filters, hparse, rfl⟩ := Option.map_eq_some_iff.mp hstep
      have hmem := List.mem_of_getElem? hp
      obtain ⟨htasks, hid⟩ : task ∈ s.tasks ∧ task.id = taskId :=
        ⟨List.mem_of_find?_eq_some htask, by simpa using List.find?_some htask⟩
      let f : BackfillTask → BackfillTask :=
        fun t => { t with status := .running, startedAt := some (now : Int), updatedAt := now }
      have hnone : ∀ q ∈ s.processors, q.taskId = taskId → q.work? = none := by
        intro q hq hqid
        have hsame := List.inj_on_of_nodup_map (f := Processor.taskId) hs.single hq hmem hqid
        rw [hsame]
        rfl
      have htouched : Sound h { s with tasks := updateTask taskId f s.tasks } :=
        hs.touch (f := f) (fun _ => rfl) (fun _ => rfl) (fun _ => rfl)
          (fun _ hdone => nomatch hdone) (hs.last_ne hmem) (Or.inr hnone)
      refine htouched.setProcessor hp rfl fun work hwork hgoes => ?_
      obtain rfl := Option.some.inj hwork
      have hrow := mem_updateTask taskId f htasks
      rw [if_pos hid] at hrow
      refine ⟨f task, hrow, hid, ?_, fun hversion row hrows hwithin => ?_⟩
      · exact (congrArg h.parse (snapshotText_of_parse hparse)).trans hparse
      · obtain ⟨startedAt, hstarted, hlow⟩ := hwithin
        obtain rfl := Option.some.inj hstarted
        refine (hkept _ hp hgoes task htask filters hparse hversion row hrows hlow).imp id ?_
        exact Or.inr
  · exact nomatch hstep

theorem Sound.iterate (hs : Sound h s) {i now : Nat} (hkept : Kept h s (.iterate i now))
    (hstep : s.iterate i now = some s') : Sound h s' := by
  unfold State.iterate at hstep
  split at hstep
  · rename_i taskId filters date rest mutated hp
    obtain rfl := Option.some.inj hstep
    refine hs.setProcessor hp rfl fun work hwork hgoes => ?_
    obtain rfl := Option.some.inj hwork
    obtain ⟨task, htask, hid, hparse, hheld⟩ :=
      hs.work _ (List.mem_of_getElem? hp) _ rfl rfl
    refine ⟨task, htask, hid, hparse, fun hversion row hrow hwithin => ?_⟩
    rcases hheld hversion row hrow hwithin with hc | hpending
    · exact Or.inl hc
    · rcases hkept _ hp _ rfl hversion date rfl with httl | hevents
      · exact Or.inr (hpending.iterate (Or.inl httl))
      · by_cases hday : row.mutation = BackfilledTable.events.mutation date
        · exact Or.inl (hevents row hrow hday)
        · exact Or.inr (hpending.iterate (Or.inr hday))
  · exact nomatch hstep

/-- After a mutation that ran to its end, its rows are classified. -/
theorem classified_of_rewritten {filters : List StoredFilter} {m : Mutation}
    (hmay : MayRewrite h s filters m none) (hcurrent : Current h s) {row : StoredRow}
    (hrow : row ∈ rewriteRows h.host.regexTest filters m none s.rows) (hm : row.mutation = m) :
    Classified h s.filters row.columns := by
  obtain ⟨heq, htakes⟩ := hmay hcurrent
  obtain ⟨entry, hentry, rfl⟩ := List.mem_map.mp hrow
  obtain ⟨hmutation, -, -, hcases⟩ := rewriteRow_cases h.host.regexTest filters m none entry
  rw [hm] at hmutation
  rcases hcases with ⟨hentrym, hall, hcolumns⟩ | ⟨hnot, -⟩
  · rw [hcolumns]
    exact (htakes entry hentry hentrym hall).classified.congr heq
  · exact absurd ⟨hmutation.symm, rfl⟩ hnot

theorem Sound.mutate (hs : Sound h s) {i : Nat} {killed : Option (List Nat)}
    (hkept : Kept h s (.mutate i killed)) (hstep : s.mutate h i killed = some s') :
    Sound h s' := by
  unfold State.mutate at hstep
  split at hstep
  · rename_i taskId filters m todo chunks mutated cancelled hp
    obtain rfl := Option.some.inj hstep
    obtain ⟨hwhole, hmay⟩ := hkept _ hp _ rfl m rfl
    have hrewritten := hs.rewrite hmay
    have hmem := List.mem_of_getElem? hp
    refine hrewritten.setProcessor hp rfl fun work hwork hgoes => ?_
    obtain rfl := Option.some.inj hwork
    obtain rfl : killed = none := hwhole hgoes
    obtain ⟨task, htask, hid, hparse, hheld⟩ := hrewritten.work _ hmem _ rfl hgoes
    refine ⟨task, htask, hid, hparse, fun hversion row hrow hwithin => ?_⟩
    rcases hheld hversion row hrow hwithin with hc | hpending
    · exact Or.inl hc
    · refine hpending.mutate.imp (fun hm => ?_) id
      have hcurrent : Current h s := ⟨filters, mem_watched_of_work hmem rfl hgoes, hversion⟩
      exact classified_of_rewritten hmay hcurrent hrow hm
  · exact nomatch hstep

theorem Sound.progress (hs : Sound h s) {i : Nat} {now : Int}
    (hstep : s.progress i now = some s') : Sound h s' := by
  unfold State.progress at hstep
  split at hstep
  · rename_i hp
    obtain rfl := Option.some.inj hstep
    exact hs.touch (fun _ => rfl) (fun _ => rfl) (fun _ => rfl) (fun _ hdone => nomatch hdone)
      (hs.last_ne (List.mem_of_getElem? hp)) (Or.inl fun _ => rfl)
  · exact nomatch hstep

theorem Sound.conclude (hs : Sound h s) {i : Nat} {now : Int}
    (hstep : s.conclude i now = some s') : Sound h s' := by
  unfold State.conclude at hstep
  split at hstep
  · rename_i hp
    split at hstep
    · obtain rfl := Option.some.inj hstep
      exact hs.stop hp (by decide) none now
    · rename_i hgoes
      split at hstep
      · rename_i hchunks
        obtain rfl := Option.some.inj hstep
        obtain rfl := hchunks
        rw [Bool.not_eq_true] at hgoes
        obtain rfl := hgoes
        exact hs.complete hp none now
      · exact nomatch hstep
  · exact nomatch hstep

theorem Sound.fail (hs : Sound h s) {i : Nat} {reached : List Nat} {message : String} {now : Int}
    (hkept : Kept h s (.fail i reached message now))
    (hstep : s.fail h i reached message now = some s') : Sound h s' := by
  unfold State.fail at hstep
  split at hstep
  · rename_i hp
    obtain rfl := Option.some.inj hstep
    exact hs.stop hp (by decide) _ now
  · rename_i taskId filters todo chunks mutated cancelled hp
    obtain rfl := Option.some.inj hstep
    cases todo with
    | nil => exact hs.stop hp (by decide) _ now
    | cons m rest =>
        have hrewritten := hs.rewrite (hkept _ hp _ rfl m rfl)
        exact hrewritten.stop hp (by decide) _ now
  · exact nomatch hstep

theorem Sound.abandon (hs : Sound h s) {i : Nat} (hstep : s.abandon i = some s') :
    Sound h s' := by
  unfold State.abandon at hstep
  split at hstep
  · obtain rfl := Option.some.inj hstep
    exact hs.erase i
  · obtain rfl := Option.some.inj hstep
    exact hs.erase i
  · exact nomatch hstep

theorem Sound.cancelTask (hs : Sound h s) {taskId : String}
    (hstep : s.cancelTask taskId = some s') : Sound h s' := by
  unfold State.cancelTask at hstep
  split at hstep
  · exact nomatch hstep
  · split at hstep
    · exact nomatch hstep
    · obtain rfl := Option.some.inj hstep
      let told : Processor → Processor := fun p =>
        if p.taskId = taskId ∧ p.registered = true then { p with cancelled := true } else p
      have htold : ∀ p, (told p).taskId = p.taskId ∧ (told p).work? = p.work? ∧
          ((told p).cancelled = false → p.cancelled = false) := by
        intro p
        unfold told
        split
        · exact ⟨rfl, rfl, fun hgoes => nomatch hgoes⟩
        · exact ⟨rfl, rfl, id⟩
      refine ⟨hs.ids, ?_, fun p hp => ?_, hs.last, fun p hp work hwork hgoes => ?_⟩
      · have hids : (s.processors.map told).map (·.taskId) = s.processors.map (·.taskId) := by
          rw [List.map_map]
          exact List.map_congr_left fun p _ => (htold p).1
        show ((s.processors.map told).map (·.taskId)).Nodup
        rw [hids]
        exact hs.single
      · obtain ⟨q, hq, rfl⟩ := List.mem_map.mp hp
        rw [(htold q).1]
        exact hs.known q hq
      · obtain ⟨q, hq, rfl⟩ := List.mem_map.mp hp
        rw [(htold q).2.1] at hwork
        obtain ⟨task, htask, hid, hrest⟩ := hs.work q hq work hwork ((htold q).2.2 hgoes)
        exact ⟨task, htask, hid.trans (htold q).1.symm, hrest⟩

theorem Sound.cancelLand (hs : Sound h s) {taskId : String} {now : Int}
    (hkept : Kept h s (.cancelLand taskId now)) (hstep : s.cancelLand taskId now = some s') :
    Sound h s' := by
  unfold State.cancelLand at hstep
  split at hstep
  · obtain rfl := Option.some.inj hstep
    have htouched := hs.touch (f := fun t => updateTaskStatus now t .cancelled none)
      (fun _ => rfl) (fun _ => rfl) (fun _ => rfl) (fun _ hdone => nomatch hdone) hkept
      (Or.inl fun _ => rfl)
    exact ⟨htouched.ids, htouched.single, htouched.known, htouched.last, htouched.work⟩
  · exact nomatch hstep

/-- **A step that meets the condition keeps the invariant.** -/
theorem Sound.step {a : Action} (hs : Sound h s) (hkept : Kept h s a)
    (hstep : s.step h a = some s') : Sound h s' := by
  cases a with
  | edit request stored =>
      simp only [State.step, State.edit] at hstep
      split at hstep
      · exact nomatch hstep
      · split at hstep
        · obtain rfl := Option.some.inj hstep
          exact hs.edit hkept
        · exact nomatch hstep
  | ingest table day event age => exact hs.ingest hkept hstep
  | startBackfill taskId dto now => exact hs.startBackfill hstep
  | fire i => exact hs.fire hstep
  | begin i now => exact hs.begin hkept hstep
  | iterate i now => exact hs.iterate hkept hstep
  | mutate i killed => exact hs.mutate hkept hstep
  | progress i now => exact hs.progress hstep
  | conclude i now => exact hs.conclude hstep
  | fail i reached message now => exact hs.fail hkept hstep
  | abandon i => exact hs.abandon hstep
  | cancelTask taskId => exact hs.cancelTask hstep
  | cancelLand taskId now => exact hs.cancelLand hkept hstep

theorem Sound.initial (filters : List StoredFilter) (rows : List StoredRow) :
    Sound h (.initial filters rows) where
  ids := List.nodup_nil
  single := List.nodup_nil
  known := fun _ hp => nomatch hp
  last := fun _ hlast => nomatch hlast
  work := fun _ hp => nomatch hp

/-- The flag is right where the rows of the last completed task are. -/
theorem Sound.summaryHolds (hs : Sound h s) : SummaryHolds h s := by
  intro summary hsummary hneeds task hlast row hrow hwithin
  obtain ⟨task', filters, hfind, hparse, hversion⟩ :=
    version_eq_of_no_backfill_needed hsummary hneeds
  obtain rfl : task' = task := Option.some.inj (hfind.symm.trans hlast)
  exact (hs.last task' hlast filters hparse hversion row hrow hwithin).resolve_right id

/--
**"No backfill needed" is true**, of runs that keep the condition.

In every run of filter edits, incoming rows and backfill tasks that complete, fail or are
cancelled anywhere: if every step meets the condition, then in the state it ends in, when
the summary needs no backfill, every row of the last completed task's lookback has in its
custom dimensions what the current filters give it.
-/
theorem no_backfill_needed_of_kept (h : SummaryHost) {filters : List StoredFilter}
    {rows : List StoredRow} {as : List Action} {s : State}
    (hrun : Machine.exec (State.step h) (.initial filters rows) as = some s)
    (hkept : Machine.Meets (State.step h) (Kept h) (.initial filters rows) as) :
    SummaryHolds h s :=
  (Machine.exec_invariant_of_meets (C := Kept h) (P := Sound h)
    (fun _ _ _ hs hC hstep => hs.step hC hstep) (Sound.initial filters rows) hkept
    hrun).summaryHolds

/-! ### A change that is taken back -/

instance (filters : List FilterDefinition) (d : WritableDimension) :
    Decidable (Targets filters d) :=
  inferInstanceAs (Decidable (∃ f ∈ filters, f.enabled = true ∧ ∃ op ∈ f.operations,
    op.dimension = d))

instance (filters : List StoredFilter) (row : TableRow) (h : SummaryHost) :
    Decidable (Classified h filters row) :=
  inferInstanceAs (Decidable (∀ d ∈ WRITABLE_DIMENSIONS, _ → _))

instance (filters : List StoredFilter) (row : TableRow) (h : SummaryHost) :
    Decidable (Takes h filters row) :=
  inferInstanceAs (Decidable (∀ d ∈ WRITABLE_DIMENSIONS, _ → (_ → _) ∧ (_ → _)))

instance (task : BackfillTask) (row : StoredRow) : Decidable (WithinLookback task row) :=
  inferInstanceAs (Decidable (∃ startedAt ∈ task.startedAt, _))

instance (h : SummaryHost) (s : State) : Decidable (Current h s) :=
  inferInstanceAs (Decidable (∃ filters ∈ watched h s, _))

instance (h : SummaryHost) (s : State) (filters : List StoredFilter) (m : Mutation)
    (killed : Option (List Nat)) : Decidable (MayRewrite h s filters m killed) :=
  inferInstanceAs (Decidable (_ → _ ∧ ∀ entry ∈ s.rows.zipIdx, _ → _ → _))

instance (chunks : List Int) (mutated : Mutated) (row : StoredRow) :
    Decidable (Named chunks mutated row) :=
  inferInstanceAs (Decidable (∃ date ∈ chunks, _ ∧ _))

instance (h : SummaryHost) (s : State) : ∀ a, Decidable (Kept h s a)
  | .edit _ _ => inferInstanceAs (Decidable (∀ filters ∈ watched h s, _ → _ ∧ _))
  | .ingest _ _ _ _ => inferInstanceAs (Decidable (_ → ∀ filters ∈ (_ : Option _), _))
  | .begin i _ => inferInstanceAs (Decidable (∀ p ∈ s.processors[i]?, _ → ∀ task ∈ (_ : Option _),
      ∀ filters ∈ (_ : Option _), _ → ∀ row ∈ s.rows, _ → _ ∨ _))
  | .iterate i _ => inferInstanceAs (Decidable (∀ p ∈ s.processors[i]?, ∀ work ∈ p.work?, _ →
      ∀ date ∈ work.chunks.head?, _ ∨ ∀ row ∈ s.rows, _ → _))
  | .mutate i _ => inferInstanceAs (Decidable (∀ p ∈ s.processors[i]?, ∀ work ∈ p.work?,
      ∀ m ∈ work.todo.head?, (_ → _) ∧ _))
  | .fail i _ _ _ => inferInstanceAs (Decidable (∀ p ∈ s.processors[i]?, ∀ work ∈ p.work?,
      ∀ m ∈ work.todo.head?, _))
  | .cancelLand _ _ => inferInstanceAs (Decidable (∀ task ∈ lastCompleted s.tasks, _))
  | .startBackfill _ _ _ | .fire _ | .progress _ _ | .conclude _ _ | .abandon _
  | .cancelTask _ => isTrue trivial


namespace ReturnExample

def paid : StoredFilter := VersionExample.filter "a" "paid" 500 VersionExample.default_nonneg

def search : StoredFilter := VersionExample.filter "a" "search" 500 VersionExample.default_nonneg

def stringify (filters : List StoredFilter) : String :=
  Json.stringify VersionExample.numerals (.arr (filters.map (·.hashed)))

def parse (text : String) : Option (List StoredFilter) :=
  [[], [paid], [search]].find? fun filters => stringify filters = text

/-- The digests of the three lists there are. -/
def md5 (text : String) : String :=
  if text = stringify [paid] then "12be792d8bcd1a0787aed3c52819445b"
  else if text = stringify [search] then "021848f84a6f387096331da41092deb0"
  else "d751713988987e9331980363e24189ce"

theorem parse_empty : parse "" = none := by decide +kernel

def host : SummaryHost where
  version := VersionExample.host
  md5 := md5
  stringify := stringify
  parse := parse
  parse_empty := parse_empty
  host := .bare
  compiles := fun _ => true
  backend := ⟨0, false, fun _ => none⟩

/-- `set_value` of a channel. -/
def setChannel (channel : String) (h : normalizeOperationValue (some channel) = some channel) :
    FilterOperationDto :=
  ⟨.channel, .setValue, some channel, h⟩

theorem no_bounds : ∀ p ∈ (none : Option ℚ), 0 ≤ p ∧ p ≤ 1000 := fun _ hp => nomatch hp

theorem google_ne : [(⟨.utmSource, .equals, some "google"⟩ : FilterCondition)] ≠ [] :=
  List.cons_ne_nil _ _

theorem paid_ne : [setChannel "paid" rfl] ≠ [] := List.cons_ne_nil _ _

def createPaid : FilterRequest :=
  .create "a"
    { priority := none
      conditions := [⟨.utmSource, .equals, some "google"⟩]
      operations := [setChannel "paid" rfl]
      enabled := none
      priority_bounds := no_bounds
      conditions_ne := google_ne
      operations_ne := paid_ne }

def setTo (operation : FilterOperationDto) : FilterRequest :=
  .update
    { id := "a"
      priority := none
      conditions := none
      operations := some [operation]
      enabled := none
      priority_bounds := no_bounds }

/-- The 10th of June 2026, at noon. -/
def day : Int := 20614

def noon : Nat := 20614 * 86400000 + 43200000

/-- A task on one day, up to its first chunk. -/
def started (taskId : String) : List Action :=
  [.startBackfill taskId ⟨"w", 1, none, none⟩ noon, .fire 0, .begin 0 noon, .iterate 0 noon]

/-- A filter, a visit and a backfill. -/
def completed : List Action :=
  [.edit createPaid [paid], .ingest .events day AgreementExample.visit 0] ++ started "t1" ++
    [.mutate 0 none, .mutate 0 none, .mutate 0 none, .conclude 0 noon]

/-- The channel is changed, and the backfill fails after the events. -/
def stopped : List Action :=
  completed ++ [.edit (setTo (setChannel "search" rfl)) [search]] ++ started "t2" ++
    [.mutate 0 none, .fail 0 [] "Timeout waiting for sessions mutations to complete" noon]

/-- The channel is changed back. -/
def changedBack : List Action := stopped ++ [.edit (setTo (setChannel "paid" rfl)) [paid]]

/-- The backfill is started again. -/
def startedAgain : List Action :=
  stopped ++ started "t3" ++ [.mutate 0 none, .mutate 0 none, .mutate 0 none, .conclude 0 noon]

/-- No task is at work, and the summary says that no backfill is needed. -/
def saysUnneeded (s : State) : Bool :=
  s.processors.isEmpty &&
    match getBackfillSummary host.version host.md5 host.parse host.backend s.filters s.tasks with
    | .ok summary => !summary.needsBackfill
    | .error _ => false

theorem summary_of_saysUnneeded {s : State} (hunneeded : saysUnneeded s = true) :
    s.processors = [] ∧ ∃ summary,
      getBackfillSummary host.version host.md5 host.parse host.backend s.filters s.tasks =
        .ok summary ∧ summary.needsBackfill = false := by
  obtain ⟨hidle, hsummary⟩ := Bool.and_eq_true_iff.mp hunneeded
  refine ⟨List.isEmpty_iff.mp hidle, ?_⟩
  split at hsummary
  · rename_i summary hok
    exact ⟨summary, hok, by simpa using hsummary⟩
  · exact nomatch hsummary

end ReturnExample

open ReturnExample in
/-- A backfill that stopped midway is started again: the visit has the new channel. -/
theorem no_backfill_needed_of_kept_again :
    ∃ s, Machine.exec (State.step host) (.initial [] []) startedAgain = some s ∧
      saysUnneeded s = true ∧
      (s.rows.map fun row => row.columns.value WritableDimension.channel.column) =
        [.text "search"] ∧ SummaryHolds host s := by
  have hrun : (Machine.exec (State.step host) (.initial [] []) startedAgain).any (fun s =>
      saysUnneeded s = true ∧
        (s.rows.map fun row => row.columns.value WritableDimension.channel.column) =
          [.text "search"]) = true := by decide +kernel
  obtain ⟨s, hs, hfacts⟩ := (Option.any_eq_true _ _).mp hrun
  obtain ⟨hunneeded, hrows⟩ := of_decide_eq_true hfacts
  exact ⟨s, hs, hunneeded, hrows, no_backfill_needed_of_kept host hs (by decide +kernel)⟩

open ReturnExample in
/-- A filter is changed, the backfill stops midway and the filter is changed back: no
backfill is needed, and the visit has the channel of the change. -/
theorem change_back_unnoticed :
    ¬∀ (h : SummaryHost) (filters : List StoredFilter) (rows : List StoredRow)
      (as : List Action) (s : State),
      Machine.exec (State.step h) (.initial filters rows) as = some s → s.processors = [] →
        SummaryHolds h s := by
  intro hall
  have hrun : (Machine.exec (State.step host) (.initial [] []) changedBack).any (fun s =>
      saysUnneeded s = true ∧ ∃ task ∈ lastCompleted s.tasks, ∃ row ∈ s.rows,
        WithinLookback task row ∧ ¬Classified host s.filters row.columns) = true := by
    decide +kernel
  obtain ⟨s, hs, hfacts⟩ := (Option.any_eq_true _ _).mp hrun
  obtain ⟨hunneeded, task, htask, row, hrow, hwithin, hnot⟩ := of_decide_eq_true hfacts
  obtain ⟨hidle, summary, hsummary, hneeds⟩ := summary_of_saysUnneeded hunneeded
  exact hnot (hall host [] [] changedBack s hs hidle summary hsummary hneeds task htask row hrow
    hwithin)

end Veridian.BackfillSummaryRuns
