import Resumable.Proofs.Host.Phase

/-!
Workers that share one host. Each takes its invocation step by step, and the steps of all of them,
of submissions and of polls come in any order. An attempt belongs to the queue while it is pending
and to one worker from the delivery until it is enqueued again or deleted. The lock of a finished
task may outlive that: the worker that holds it no longer touches the record.
-/

namespace Resumable

variable {World : Type}

def QueuedTask.attemptId (task : QueuedTask) : String := task.request.attemptId

structure Worker where
  task : QueuedTask
  phase : Phase

namespace Worker

def attemptId (worker : Worker) : String := worker.task.attemptId

def owned? (worker : Worker) : Option String :=
  if worker.phase.owns then some worker.attemptId else none

def locked? (worker : Worker) : Option QueuedTask :=
  if worker.phase.locks then some worker.task else none

/-- Between the load and the save or the delete. -/
def atWork? (worker : Worker) : Option String := worker.phase.found?.map fun _ => worker.attemptId

end Worker

structure Crew (World : Type) where
  host : Host World
  /-- A worker for each task that was delivered. -/
  workers : List Worker
  /-- The documents saved so far by their attempts, the last one first. -/
  saved : List (String × Document)

inductive CrewStep (World : Type) where
  | submit (request : TaskRequest)
  | poll (limit : Nat)
  | move (index : Nat) (operator : Operator World)
  | setClock (clock : Clock)

def CrewStep.submitted? : CrewStep World → Option String
  | .submit request => some request.attemptId
  | _ => none

namespace Crew

def start (clock : Clock) (world : World) : Crew World :=
  ⟨⟨[], .empty, clock, [], [], world⟩, [], []⟩

/-- A worker whose call fails leaves the crew. -/
def move (crew : Crew World) (index : Nat) (operator : Operator World) : Crew World :=
  match crew.workers[index]? with
  | none => crew
  | some worker =>
      match worker.phase.next operator worker.task crew.host with
      | (.ok phase, host) =>
          let saved := (worker.phase.saved? worker.task crew.host).map fun record =>
            (record.attemptId, record.state)
          ⟨host, crew.workers.set index ⟨worker.task, phase⟩, saved.toList ++ crew.saved⟩
      | (.error _, host) => ⟨host, crew.workers.eraseIdx index, crew.saved⟩

def step (crew : Crew World) : CrewStep World → Crew World
  | .submit request => { crew with host := (Host.submit request crew.host).2 }
  | .poll limit =>
      match Host.pollReady limit crew.host with
      | (.ok tasks, host) =>
          ⟨host, crew.workers ++ tasks.map fun task => ⟨task, .loading⟩, crew.saved⟩
      | (.error _, host) => { crew with host := host }
  | .move index operator => crew.move index operator
  | .setClock clock => { crew with host := { crew.host with clock := clock } }

/-- The attempts of the pending tasks and of the workers that have not handed theirs on. -/
def owners (crew : Crew World) : List String :=
  crew.host.queue.pending.map QueuedTask.attemptId ++ crew.workers.filterMap Worker.owned?

end Crew

/-- Each attempt that is submitted has at most one owner, and the record of an attempt that has one
is what was saved last. -/
structure Store.Agrees (store : Store) (saved : List (String × Document))
    (owners submitted : List String) : Prop where
  owned : owners.Nodup
  known : ∀ attemptId ∈ owners, attemptId ∈ submitted
  fresh : ∀ attemptId, attemptId ∉ submitted →
    Table.get? attemptId store = none ∧ saved.lookup attemptId = none
  named : ∀ attemptId record, Table.get? attemptId store = some record →
    record.attemptId = attemptId
  last : ∀ attemptId ∈ owners,
    (Table.get? attemptId store).map StateRecord.state = saved.lookup attemptId

namespace Store.Agrees

variable {store : Store} {saved : List (String × Document)} {owners others submitted : List String}

theorem mono (agrees : Agrees store saved owners submitted) (fewer : others.Subperm owners) :
    Agrees store saved others submitted where
  owned := by
    obtain ⟨same, perm, sub⟩ := fewer
    exact perm.nodup_iff.mp (agrees.owned.sublist sub)
  known attemptId member := agrees.known attemptId (fewer.subset member)
  fresh := agrees.fresh
  named := agrees.named
  last attemptId member := agrees.last attemptId (fewer.subset member)

theorem submit (agrees : Agrees store saved owners submitted) {attemptId : String}
    (new : attemptId ∉ submitted) :
    Agrees store saved (attemptId :: owners) (attemptId :: submitted) where
  owned := List.nodup_cons.mpr ⟨fun member => new (agrees.known attemptId member), agrees.owned⟩
  known := by
    intro other member
    rcases List.mem_cons.mp member with rfl | before
    · exact List.mem_cons_self
    · exact List.mem_cons_of_mem _ (agrees.known other before)
  fresh other unknown := agrees.fresh other fun before => unknown (List.mem_cons_of_mem _ before)
  named := agrees.named
  last := by
    intro other member
    rcases List.mem_cons.mp member with rfl | before
    · rw [(agrees.fresh other new).1, (agrees.fresh other new).2]
      rfl
    · exact agrees.last other before

theorem save (agrees : Agrees store saved owners submitted) {record : StateRecord}
    (owner : record.attemptId ∈ owners) :
    Agrees (store.save record) ((record.attemptId, record.state) :: saved) owners submitted where
  owned := agrees.owned
  known := agrees.known
  fresh := by
    intro other unknown
    have different : other ≠ record.attemptId := by
      rintro rfl
      exact unknown (agrees.known _ owner)
    rw [Store.get?_save, if_neg different, List.lookup_cons, beq_false_of_ne different]
    exact agrees.fresh other unknown
  named := by
    intro other found
    rw [Store.get?_save]
    by_cases same : other = record.attemptId
    · rw [if_pos same]
      rintro ⟨⟩
      exact same.symm
    · rw [if_neg same]
      exact agrees.named other found
  last := by
    intro other member
    rw [Store.get?_save, List.lookup_cons]
    by_cases same : other = record.attemptId
    · rw [if_pos same, same, beq_self_eq_true]
      rfl
    · rw [if_neg same, beq_false_of_ne same]
      exact agrees.last other member

-- The record of an attempt that is over is nobody's.
theorem delete {attemptId : String} (agrees : Agrees store saved (attemptId :: owners) submitted) :
    Agrees (Table.erase attemptId store) saved owners submitted := by
  have gone := List.nodup_cons.mp agrees.owned
  constructor
  · exact gone.2
  · exact fun other member => agrees.known other (List.mem_cons_of_mem _ member)
  · intro other unknown
    have different : other ≠ attemptId := by
      rintro rfl
      exact unknown (agrees.known _ List.mem_cons_self)
    rw [Table.get?_erase_of_ne different]
    exact agrees.fresh other unknown
  · intro other found kept
    by_cases same : other = attemptId
    · rw [same, Table.get?_erase_self] at kept
      cases kept
    · rw [Table.get?_erase_of_ne same] at kept
      exact agrees.named other found kept
  · intro other member
    have different : other ≠ attemptId := by
      rintro rfl
      exact gone.1 member
    rw [Table.get?_erase_of_ne different]
    exact agrees.last other (List.mem_cons_of_mem _ member)

end Store.Agrees

/-- What holds of a crew in which no call fails. -/
structure Crew.Sound (crew : Crew World) (submitted : List String) : Prop where
  calm : crew.host.outages = []
  delivers : crew.host.queue.Delivers (crew.workers.filterMap Worker.locked?)
  agrees : Store.Agrees crew.host.store crew.saved crew.owners submitted
  loaded : ∀ worker ∈ crew.workers, ∀ found, worker.phase.found? = some found →
    Table.get? worker.attemptId crew.host.store = found

theorem Phase.owns_of_found {phase : Phase} {found : Option StateRecord}
    (atWork : phase.found? = some found) : phase.owns = true := by
  cases phase <;> first | rfl | cases atWork

theorem Worker.mem_owned {workers : List Worker} {worker : Worker} {found : Option StateRecord}
    (member : worker ∈ workers) (atWork : worker.phase.found? = some found) :
    worker.attemptId ∈ workers.filterMap owned? :=
  List.mem_filterMap.mpr ⟨worker, member, if_pos (Phase.owns_of_found atWork)⟩

theorem Worker.atWork_sublist (workers : List Worker) :
    (workers.filterMap atWork?).Sublist (workers.filterMap owned?) := by
  induction workers with
  | nil => exact .slnil
  | cons worker rest ih =>
      cases found : worker.phase.found? with
      | none =>
          have idle : worker.atWork? = none := by rw [atWork?, found, Option.map_none]
          rw [List.filterMap_cons_none idle]
          exact ih.trans ((List.sublist_cons_self worker rest).filterMap owned?)
      | some record =>
          have works : worker.atWork? = some worker.attemptId := by
            rw [atWork?, found, Option.map_some]
          have owns : worker.owned? = some worker.attemptId := if_pos (Phase.owns_of_found found)
          rw [List.filterMap_cons_some works, List.filterMap_cons_some owns]
          exact ih.cons_cons worker.attemptId

theorem Worker.loading_owned (tasks : List QueuedTask) :
    (tasks.map fun task => (⟨task, .loading⟩ : Worker)).filterMap owned? =
      tasks.map QueuedTask.attemptId := by
  rw [List.filterMap_map]
  exact congrFun List.filterMap_eq_map tasks

theorem Worker.loading_locked (tasks : List QueuedTask) :
    (tasks.map fun task => (⟨task, .loading⟩ : Worker)).filterMap locked? = tasks := by
  rw [List.filterMap_map]
  exact List.filterMap_some

namespace Crew.Sound

variable {host after : Host World} {crew : Crew World} {submitted : List String}

theorem start (clock : Clock) (world : World) : (Crew.start clock world).Sound [] where
  calm := rfl
  delivers := Queue.delivers_empty
  agrees :=
    { owned := .nil
      known := by simp [Crew.start, owners, Queue.empty]
      fresh := fun _ _ => ⟨rfl, rfl⟩
      named := by simp [Crew.start]
      last := by simp [Crew.start, owners, Queue.empty] }
  loaded := by simp [Crew.start]

theorem submit (sound : crew.Sound submitted) {request : TaskRequest}
    (new : request.attemptId ∉ submitted) :
    (crew.step (.submit request)).Sound (request.attemptId :: submitted) := by
  obtain ⟨log, submits⟩ := Host.submit_eq sound.calm request
  rw [Crew.step, submits]
  constructor
  · exact sound.calm
  · exact sound.delivers.enqueue request crew.host.clock.now
  · apply (sound.agrees.submit new).mono
    rw [owners, Queue.enqueue, List.map_append, List.append_assoc]
    exact List.perm_middle.subperm
  · exact sound.loaded

theorem poll (sound : crew.Sound submitted) (limit : Nat) :
    (crew.step (.poll limit)).Sound submitted := by
  have moved := Queue.poll_perm crew.host.queue crew.host.clock.now limit
  rw [Crew.step, Host.pollReady_eq sound.calm]
  constructor
  · exact sound.calm
  · rw [List.filterMap_append, Worker.loading_locked]
    exact sound.delivers.poll crew.host.clock.now limit
  · apply sound.agrees.mono
    rw [owners, owners, List.filterMap_append, Worker.loading_owned]
    -- What was pending is pending still or at the end of the workers.
    have attempts := moved.map QueuedTask.attemptId
    rw [List.map_append] at attempts
    refine List.Perm.subperm ?_
    rw [← List.append_assoc]
    refine List.perm_append_comm.trans ?_
    rw [← List.append_assoc]
    exact attempts.append_right _
  · intro worker member found atWork
    rcases List.mem_append.mp member with before | new
    · exact sound.loaded worker before found atWork
    · obtain ⟨task, _, rfl⟩ := List.mem_map.mp new
      cases atWork

-- The order of the workers does not matter.
theorem perm {workers others : List Worker} {saved : List (String × Document)}
    (sound : Sound ⟨host, workers, saved⟩ submitted) (same : workers.Perm others) :
    Sound ⟨host, others, saved⟩ submitted where
  calm := sound.calm
  delivers := sound.delivers.perm (same.filterMap _)
  agrees := sound.agrees.mono ((same.filterMap _).symm.append_left _).subperm
  loaded worker member := sound.loaded worker (same.mem_iff.mpr member)

section

variable {task : QueuedTask} {phase : Phase} {others : List Worker}
  {saved : List (String × Document)}

theorem different (sound : Sound ⟨host, ⟨task, phase⟩ :: others, saved⟩ submitted)
    (owns : phase.owns = true) {worker : Worker} (member : worker ∈ others)
    {found : Option StateRecord} (atWork : worker.phase.found? = some found) :
    worker.attemptId ≠ task.attemptId := by
  have owned := sound.agrees.owned
  have first : (⟨task, phase⟩ : Worker).owned? = some task.attemptId := if_pos owns
  rw [owners, List.filterMap_cons_some first] at owned
  have single := List.nodup_cons.mp owned.of_append_right
  intro same
  exact single.1 (same ▸ Worker.mem_owned member atWork)

theorem quiet (sound : Sound ⟨host, ⟨task, phase⟩ :: others, saved⟩ submitted) (next : Phase)
    (owns : next.owns = phase.owns) (locks : next.locks = phase.locks)
    (found : ∀ record, next.found? = some record →
      Table.get? task.attemptId host.store = record) (log : Log) (clock : Clock) (world : World) :
    Sound ⟨{ host with log := log, clock := clock, world := world }, ⟨task, next⟩ :: others, saved⟩
      submitted := by
  have owned : (⟨task, next⟩ : Worker).owned? = (⟨task, phase⟩ : Worker).owned? := by
    rw [Worker.owned?, Worker.owned?, owns]
    rfl
  have locked : (⟨task, next⟩ : Worker).locked? = (⟨task, phase⟩ : Worker).locked? := by
    rw [Worker.locked?, Worker.locked?, locks]
  constructor
  · exact sound.calm
  · have delivers := sound.delivers
    rw [List.filterMap_cons, ← locked, ← List.filterMap_cons] at delivers
    exact delivers
  · have agrees := sound.agrees
    rw [owners, List.filterMap_cons, ← owned, ← List.filterMap_cons] at agrees
    exact agrees
  · intro worker member record atWork
    rcases List.mem_cons.mp member with rfl | other
    · exact found record atWork
    · exact sound.loaded worker (List.mem_cons_of_mem _ other) record atWork

-- A worker that is past its save or its delete has nothing to rely on.
theorem loaded_of_done (sound : Sound ⟨host, ⟨task, phase⟩ :: others, saved⟩ submitted)
    {next : Phase} (done : next.found? = none) {store : Store}
    (kept : ∀ worker ∈ others, ∀ found, worker.phase.found? = some found →
      Table.get? worker.attemptId store = Table.get? worker.attemptId host.store) :
    ∀ worker ∈ (⟨task, next⟩ : Worker) :: others, ∀ found, worker.phase.found? = some found →
      Table.get? worker.attemptId store = found := by
  intro worker member found atWork
  rcases List.mem_cons.mp member with rfl | other
  · rw [done] at atWork
    cases atWork
  · rw [kept worker other found atWork]
    exact sound.loaded worker (List.mem_cons_of_mem _ other) found atWork

theorem of_moved {next : Phase} (sound : Sound ⟨host, ⟨task, phase⟩ :: others, saved⟩ submitted)
    (moved : phase.Moved task host next after) :
    Sound ⟨after, ⟨task, next⟩ :: others,
      ((phase.saved? task host).map fun record => (record.attemptId, record.state)).toList ++ saved⟩
      submitted := by
  have read := sound.loaded ⟨task, phase⟩ List.mem_cons_self
  cases moved with
  | loaded log =>
      apply sound.quiet (.running _) rfl rfl
      intro record atWork
      cases atWork
      rfl
  | ran found outcome log clock world =>
      rcases outcome with failure | result | suspension
      · exact sound.quiet (.deleting found (.error failure)) rfl rfl read log clock world
      · exact sound.quiet (.deleting found (.ok result)) rfl rfl read log clock world
      · exact sound.quiet (.saving found suspension) rfl rfl read log clock world
  | saved found suspension =>
      have attemptId : (StateRecord.following task.request.attemptId suspension.state host.clock.now
          found).attemptId = task.attemptId := by
        apply StateRecord.attemptId_following
        rintro record rfl
        exact sound.agrees.named task.attemptId record (read (some record) rfl)
      constructor
      · exact sound.calm
      · exact sound.delivers
      · apply sound.agrees.save
        rw [attemptId]
        exact List.mem_append_right _ List.mem_cons_self
      · apply sound.loaded_of_done rfl
        intro worker other record atWork
        rw [Store.get?_save, attemptId, if_neg (sound.different rfl other atWork)]
  | enqueued found suspension savedAt readyAt status log =>
      constructor
      · exact sound.calm
      · exact sound.delivers.enqueue _ readyAt
      · apply sound.agrees.mono
        -- The attempt goes from the worker to the end of the queue.
        refine List.Perm.subperm (.of_eq ?_)
        rw [owners, Queue.enqueue, List.map_append, List.append_assoc]
        simp only [List.map_cons, QueuedTask.attemptId, TaskRequest.withState,
          TaskRequest.attemptId_resuming]
        rfl
      · exact sound.loaded_of_done rfl fun _ _ _ _ => rfl
  | deleted found ending log =>
      constructor
      · exact sound.calm
      · exact sound.delivers
      · apply Store.Agrees.delete
        exact sound.agrees.mono List.perm_middle.symm.subperm
      · apply sound.loaded_of_done rfl
        intro worker other record atWork
        exact Table.get?_erase_of_ne (sound.different rfl other atWork) host.store
  | released status =>
      constructor
      · exact sound.calm
      · exact sound.delivers.release (List.getElem?_cons_zero)
      · exact sound.agrees
      · exact sound.loaded_of_done rfl fun _ _ _ _ => rfl
  | idle status => exact sound

end

theorem next_ok (sound : crew.Sound submitted) {worker : Worker} (member : worker ∈ crew.workers)
    (operator : Operator World) :
    ∃ next after, worker.phase.next operator worker.task crew.host = (.ok next, after) ∧
      worker.phase.Moved worker.task crew.host next after := by
  apply Phase.next_moved sound.calm
  intro locks
  exact sound.delivers.has (List.mem_filterMap.mpr ⟨worker, member, if_pos locks⟩)

theorem move (sound : crew.Sound submitted) (index : Nat) (operator : Operator World) :
    (crew.step (.move index operator)).Sound submitted := by
  rw [Crew.step, Crew.move]
  cases found : crew.workers[index]? with
  | none => exact sound
  | some worker =>
      obtain ⟨bound, rfl⟩ := List.getElem?_eq_some_iff.mp found
      obtain ⟨next, after, ended, moved⟩ := sound.next_ok (List.getElem_mem bound) operator
      obtain ⟨before, rest, whole, _, replaced⟩ : ∃ before rest,
          crew.workers = before ++ crew.workers[index] :: rest ∧ before.length = index ∧
            crew.workers.set index ⟨crew.workers[index].task, next⟩ =
              before ++ ⟨crew.workers[index].task, next⟩ :: rest :=
        List.exists_of_set bound
      have first : crew.workers.Perm (crew.workers[index] :: (before ++ rest)) :=
        (List.Perm.of_eq whole).trans List.perm_middle
      have moves := (sound.perm first).of_moved moved
      simp only [ended, replaced]
      exact moves.perm List.perm_middle.symm

theorem step (sound : crew.Sound submitted) (step : CrewStep World)
    (new : ∀ attemptId, step.submitted? = some attemptId → attemptId ∉ submitted) :
    (crew.step step).Sound (step.submitted?.toList ++ submitted) := by
  cases step with
  | submit request => exact sound.submit (new request.attemptId rfl)
  | poll limit => exact sound.poll limit
  | move index operator => exact sound.move index operator
  | setClock clock => exact ⟨sound.calm, sound.delivers, sound.agrees, sound.loaded⟩

theorem run (sound : crew.Sound submitted) (steps : List (CrewStep World))
    (distinct : (steps.filterMap CrewStep.submitted?).Nodup)
    (new : ∀ attemptId ∈ steps.filterMap CrewStep.submitted?, attemptId ∉ submitted) :
    ∃ all, (steps.foldl Crew.step crew).Sound all := by
  induction steps generalizing crew submitted with
  | nil => exact ⟨submitted, sound⟩
  | cons first rest ih =>
      rw [List.foldl_cons]
      cases named : first.submitted? with
      | none =>
          rw [List.filterMap_cons_none named] at distinct new
          apply ih (sound.step first _) distinct
          · rw [named]
            exact new
          · rw [named]
            rintro attemptId ⟨⟩
      | some attemptId =>
          rw [List.filterMap_cons_some named] at distinct new
          have apart := List.nodup_cons.mp distinct
          apply ih (sound.step first _) apart.2
          · rw [named]
            intro other member before
            rcases List.mem_cons.mp before with rfl | earlier
            · exact apart.1 member
            · exact new other (List.mem_cons_of_mem _ member) earlier
          · rw [named]
            rintro other ⟨⟩
            exact new attemptId List.mem_cons_self

theorem atWork_nodup (sound : crew.Sound submitted) :
    (crew.workers.filterMap Worker.atWork?).Nodup :=
  sound.agrees.owned.of_append_right.sublist (Worker.atWork_sublist crew.workers)

theorem saved_own (sound : crew.Sound submitted) {worker : Worker}
    (member : worker ∈ crew.workers) {record : StateRecord}
    (saves : worker.phase.saved? worker.task crew.host = some record) :
    record.attemptId = worker.attemptId := by
  obtain ⟨task, phase⟩ := worker
  cases phase with
  | saving found suspension =>
      cases saves
      cases found with
      | none => rfl
      | some record =>
          exact sound.agrees.named task.attemptId record (sound.loaded _ member (some record) rfl)
  | _ => cases saves

end Crew.Sound

/-- Each invocation is made in steps, one call at a time, and any number of them and of polls and
submissions are mixed in any order. If no attempt is submitted twice, then at no time are two
workers between the load and the save or the delete of one attempt; every call succeeds; every load
gives the document that was saved last; and the record that a worker is about to replace or delete
is the one it has loaded. -/
theorem no_update_is_lost (clock : Clock) (world : World) (steps : List (CrewStep World))
    (distinct : (steps.filterMap CrewStep.submitted?).Nodup) :
    let crew := steps.foldl Crew.step (.start clock world)
    (∀ (operator : Operator World) (task : QueuedTask),
        Phase.iterate operator task 5 .loading =
          (do
            let status ← Host.invoke operator task
            return .finished status)) ∧
      (crew.workers.filterMap Worker.atWork?).Nodup ∧
      (∀ worker ∈ crew.workers, ∀ operator, ∃ next after,
        worker.phase.next operator worker.task crew.host = (.ok next, after) ∧
          (worker.phase = .loading → ∃ found, next = .running found ∧
            found.map StateRecord.state = crew.saved.lookup worker.attemptId)) ∧
      (∀ worker ∈ crew.workers, ∀ found, worker.phase.found? = some found →
        Table.get? worker.attemptId crew.host.store = found) ∧
      ∀ worker ∈ crew.workers, ∀ record,
        worker.phase.saved? worker.task crew.host = some record →
          record.attemptId = worker.attemptId := by
  intro crew
  obtain ⟨submitted, sound⟩ := (Crew.Sound.start clock world).run steps distinct (by simp)
  refine ⟨Phase.iterate_loading, sound.atWork_nodup, ?_, sound.loaded, ?_⟩
  · intro worker member operator
    obtain ⟨next, after, ended, moved⟩ := sound.next_ok member operator
    refine ⟨next, after, ended, ?_⟩
    intro loading
    rw [loading] at moved
    cases moved with
    | loaded log =>
        refine ⟨_, rfl, sound.agrees.last worker.attemptId ?_⟩
        apply List.mem_append_right
        refine List.mem_filterMap.mpr ⟨worker, member, if_pos ?_⟩
        rw [loading]
        rfl
  · intro worker member record saves
    exact sound.saved_own member saves

/-- Notes that it has run and is to run again at once. -/
def restlessOperator : Operator Unit where
  run _ _ := do
    Action.set .bool "ran" true
    Action.suspend 0
  resetKeys := []
  retryByDefault := false

/-- The first worker enqueues the attempt again, and before it has released its lock the second is
handed the attempt and loads. -/
def overlappingSteps : List (CrewStep Unit) :=
  [.submit ⟨"attempt-1", "+note", .empty, []⟩, .poll 1, .move 0 restlessOperator,
    .move 0 restlessOperator, .move 0 restlessOperator, .move 0 restlessOperator, .poll 1,
    .move 1 restlessOperator]

def overlappingCrew : Crew Unit := overlappingSteps.foldl Crew.step (.start ⟨0⟩ ())

theorem restless_attempt_has_one_worker :
    (overlappingSteps.filterMap CrewStep.submitted?).Nodup ∧
      (∃ status record,
        overlappingCrew.workers.map Worker.phase = [.releasing status, .running (some record)] ∧
          overlappingCrew.saved.lookup "attempt-1" = some record.state) ∧
      (overlappingCrew.workers.filterMap Worker.atWork?).Nodup ∧
      ∀ worker ∈ overlappingCrew.workers, ∃ next after,
        worker.phase.next restlessOperator worker.task overlappingCrew.host =
          (.ok next, after) := by
  have distinct : (overlappingSteps.filterMap CrewStep.submitted?).Nodup := by decide
  obtain ⟨_, alone, calls, _⟩ := no_update_is_lost ⟨0⟩ () overlappingSteps distinct
  refine ⟨distinct, ⟨_, _, rfl, rfl⟩, alone, ?_⟩
  intro worker member
  obtain ⟨next, after, ended, _⟩ := calls worker member restlessOperator
  exact ⟨next, after, ended⟩

end Resumable
