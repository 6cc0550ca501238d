import Resumable.Host.Queue
import Resumable.Proofs.Json.Variant
import Resumable.Proofs.Time.Rfc3339
import Resumable.Task.Result

/-!
The records that are stored or sent. Each is read back from what it is written as, and from what an
older or a newer writer makes of that.
-/

namespace Resumable

open Json (Carried Fields Shape Variant)

/-- How the values of a type are written and read. -/
structure Wire (α : Type) where
  shape : Shape
  encode : α → Json
  decoder : Json.Decoder α
  /-- The values there are: numbers fit their type, and documents are well formed. -/
  Valid : α → Prop

namespace Wire

variable {α : Type}

/-- Every variant of a written value is read as that value, whatever it comes from. -/
def Reads (wire : Wire α) (value : α) : Prop :=
  ∀ ⦃ending : Json.Ending⦄, ending.Whole → ∀ other, Variant wire.shape (wire.encode value) other →
    wire.decoder (.built ending other) = .ok value

/-- Values are read back from what they are written as, and from all variants of it. -/
def Tolerant (wire : Wire α) : Prop :=
  ∀ value, wire.Valid value →
    wire.decoder.run (wire.encode value) = .ok value ∧
      ∀ other, Variant wire.shape (wire.encode value) other → wire.decoder.run other = .ok value

theorem tolerant_of_reads {wire : Wire α}
    (self : ∀ value, wire.Valid value → Variant wire.shape (wire.encode value) (wire.encode value))
    (reads : ∀ value, wire.Valid value → wire.Reads value) : wire.Tolerant := by
  intro value valid
  have run (other : Json) (variant : Variant wire.shape (wire.encode value) other) :
      wire.decoder.run other = .ok value := by
    rw [Json.Decoder.run, ← Json.Draft.built_counted]
    exact reads value valid Json.Ending.whole_counted other variant
  exact ⟨run _ (self value valid), run⟩

end Wire

theorem Config.decoder_built {ending : Json.Ending} (whole : ending.Whole) {config : Config}
    (wellFormed : config.params.WellFormed) :
    Config.decoder (.built ending config.toJson) = .ok config := by
  rw [Config.decoder, Json.Decoder.map, Config.toJson, Json.Decoder.document_built whole wellFormed]
  rfl

theorem Json.Decoder.instant_built (ending : Json.Ending) (instant : Instant) :
    Json.Decoder.instant (.built ending (.text instant.text)) = .ok instant := by
  rw [Json.Draft.built, Json.Decoder.instant, Time.parse_text]

namespace ErrorDocument

def wire : Wire ErrorDocument where
  shape := .record
    [("message", none, .plain), ("kind", none, .plain), ("causes", some (.array []), .plain)]
  encode := toJson
  decoder := decoder
  Valid _ := True

/-- Causes are written if there are any. -/
theorem toJson_members (document : ErrorDocument) :
    ∃ entries, document.toJson = .record entries ∧ (Table.keys entries).Nodup ∧
      Table.get? "message" entries = some (.text document.message) ∧
      Table.get? "kind" entries = some (.text document.kind) ∧
      Table.get? "causes" entries =
        if document.causes = [] then none else some (.texts document.causes) := by
  obtain ⟨message, kind, causes⟩ := document
  refine ⟨_, rfl, ?_⟩
  cases causes with
  | nil => simp [Table.keys, Table.get?]
  | cons first rest => simp [Table.keys, Table.get?]

theorem reads (document : ErrorDocument) : wire.Reads document := by
  intro ending whole other variant
  obtain ⟨entries, same, apart, message, kind, causes⟩ := document.toJson_members
  simp only [wire, same] at variant
  obtain ⟨others, rfl, distinct, carried⟩ := variant.of_entries apart
  simp only [List.forall_mem_cons, message, kind, causes] at carried
  obtain ⟨first, second, third, -⟩ := carried
  have message : (Fields.required "message" .text).Reads (Json.memberIn ending others)
      document.message := first.required_plain rfl
  have kind : (Fields.required "kind" .text).Reads (Json.memberIn ending others)
      document.kind := second.required_plain rfl
  have causes : (Fields.optional "causes" (.list .text) []).Reads (Json.memberIn ending others)
      document.causes := by
    apply third.optional
    · intro stored written other inner
      obtain rfl := Option.some.inj (Option.ite_none_left_eq_some.mp written).2
      rw [inner.eq_of_plain]
      exact Json.Decoder.texts_built whole document.causes
    · intro left
      by_contra some
      rw [if_neg some] at left
      simp [Json.texts, some] at left
  exact Json.decoder_built "ErrorDocument" whole distinct
    (((message.map ErrorDocument.mk).seq kind).seq causes)

theorem self (document : ErrorDocument) :
    Variant wire.shape document.toJson document.toJson := by
  refine .self (Table.ascending_ofList _).nodup ?_
  simp only [List.forall_mem_cons]
  exact ⟨fun stored _ => .same stored, fun stored _ => .same stored, fun stored _ => .same stored,
    List.forall_mem_nil _⟩

end ErrorDocument

namespace Suspension

def wire : Wire Suspension where
  shape := .record
    [("retry_interval_seconds", none, .plain), ("state", none, .plain),
      ("cause", some .null, ErrorDocument.wire.shape)]
  encode := toJson
  decoder := decoder
  Valid suspension := suspension.retryIntervalSeconds < 1 <<< 64 ∧ suspension.state.WellFormed

/-- A cause is written if there is one. -/
theorem toJson_members (suspension : Suspension) :
    ∃ entries, suspension.toJson = .record entries ∧ (Table.keys entries).Nodup ∧
      Table.get? "retry_interval_seconds" entries = some (.nat suspension.retryIntervalSeconds) ∧
      Table.get? "state" entries = some (.object suspension.state) ∧
      Table.get? "cause" entries = suspension.cause.map ErrorDocument.toJson := by
  obtain ⟨seconds, state, cause⟩ := suspension
  refine ⟨_, rfl, ?_⟩
  cases cause with
  | none => simp [Table.keys, Table.get?]
  | some document => simp [Table.keys, Table.get?]

theorem reads {suspension : Suspension} (valid : wire.Valid suspension) :
    wire.Reads suspension := by
  obtain ⟨fits, wellFormed⟩ := valid
  intro ending whole other variant
  obtain ⟨entries, same, apart, seconds, state, cause⟩ := suspension.toJson_members
  simp only [wire, same] at variant
  obtain ⟨others, rfl, distinct, carried⟩ := variant.of_entries apart
  simp only [List.forall_mem_cons, seconds, state, cause] at carried
  obtain ⟨first, second, third, -⟩ := carried
  have seconds : (Fields.required "retry_interval_seconds" (.natural 64)).Reads
      (Json.memberIn ending others) suspension.retryIntervalSeconds :=
    first.required_plain (Json.Decoder.natural_built fits)
  have state : (Fields.required "state" .document).Reads (Json.memberIn ending others)
      suspension.state :=
    second.required_plain (Json.Decoder.document_built whole wellFormed)
  have cause : (Fields.optional "cause" (.optional ErrorDocument.decoder) none).Reads
      (Json.memberIn ending others) suspension.cause := by
    apply third.optional
    · intro stored written other inner
      obtain ⟨document, found, rfl⟩ := Option.map_eq_some_iff.mp written
      have read := document.reads whole other inner
      obtain ⟨members, rfl, -⟩ := inner.of_record
      change (ErrorDocument.wire.decoder (.built ending (.object members))).map some = _
      rw [read, found]
      rfl
    · rintro (absent | null)
      · exact Option.map_eq_none_iff.mp absent
      · obtain ⟨document, -, same⟩ := Option.map_eq_some_iff.mp null
        cases same
  exact Json.decoder_built "Suspension" whole distinct
    (((seconds.map Suspension.mk).seq state).seq cause)

theorem self (suspension : Suspension) :
    Variant wire.shape suspension.toJson suspension.toJson := by
  obtain ⟨entries, same, apart, -, -, cause⟩ := suspension.toJson_members
  rw [same]
  refine .self (Table.ascending_ofList _).nodup ?_
  simp only [List.forall_mem_cons, Table.get?_ofList apart, cause]
  refine ⟨fun stored _ => .same stored, fun stored _ => .same stored, ?_, List.forall_mem_nil _⟩
  intro stored written
  obtain ⟨document, -, rfl⟩ := Option.map_eq_some_iff.mp written
  exact document.self

end Suspension

namespace Config

def wire : Wire Config where
  shape := .plain
  encode := toJson
  decoder := decoder
  Valid config := config.params.WellFormed

theorem reads {config : Config} (valid : wire.Valid config) : wire.Reads config := by
  intro ending whole other variant
  rw [variant.eq_of_plain]
  exact config.decoder_built whole valid

end Config

namespace TaskRequest

def wire : Wire TaskRequest where
  shape := .record
    [("attempt_id", none, .plain), ("task_name", none, .plain),
      ("config", some (.object []), .plain), ("last_state_params", some (.object []), .plain)]
  encode := toJson
  decoder := decoder
  Valid request := Config.wire.Valid request.config ∧ request.lastStateParams.WellFormed

theorem toJson_members (request : TaskRequest) :
    ∃ entries, request.toJson = .record entries ∧ (Table.keys entries).Nodup ∧
      Table.get? "attempt_id" entries = some (.text request.attemptId) ∧
      Table.get? "task_name" entries = some (.text request.taskName) ∧
      Table.get? "config" entries = some request.config.toJson ∧
      Table.get? "last_state_params" entries = some (.object request.lastStateParams) := by
  refine ⟨_, rfl, ?_⟩
  simp [Table.keys, Table.get?]

theorem reads {request : TaskRequest} (valid : wire.Valid request) : wire.Reads request := by
  obtain ⟨configValid, stateValid⟩ := valid
  intro ending whole other variant
  obtain ⟨entries, same, apart, attempt, task, config, state⟩ := request.toJson_members
  simp only [wire, same] at variant
  obtain ⟨others, rfl, distinct, carried⟩ := variant.of_entries apart
  simp only [List.forall_mem_cons, attempt, task, config, state] at carried
  obtain ⟨first, second, third, fourth, -⟩ := carried
  have attempt : (Fields.required "attempt_id" .text).Reads (Json.memberIn ending others)
      request.attemptId := first.required_plain rfl
  have task : (Fields.required "task_name" .text).Reads (Json.memberIn ending others)
      request.taskName := second.required_plain rfl
  have config : (Fields.optional "config" Config.decoder .empty).Reads
      (Json.memberIn ending others) request.config := by
    refine third.optional_plain (Config.decoder_built whole configValid) fun same => ?_
    exact congrArg Config.mk (Json.object.inj same)
  have state : (Fields.optional "last_state_params" .document []).Reads
      (Json.memberIn ending others) request.lastStateParams :=
    fourth.optional_plain (Json.Decoder.document_built whole stateValid) Json.object.inj
  exact Json.decoder_built "TaskRequest" whole distinct
    ((((attempt.map TaskRequest.mk).seq task).seq config).seq state)

theorem self (request : TaskRequest) : Variant wire.shape request.toJson request.toJson := by
  refine .self (Table.ascending_ofList _).nodup ?_
  simp only [List.forall_mem_cons]
  exact ⟨fun stored _ => .same stored, fun stored _ => .same stored, fun stored _ => .same stored,
    fun stored _ => .same stored, List.forall_mem_nil _⟩

end TaskRequest

namespace TaskReport

def wire : Wire TaskReport where
  shape := .record [("inputs", some (.array []), .plain), ("outputs", some (.array []), .plain)]
  encode := toJson
  decoder := decoder
  Valid report := Json.WellFormedItems report.inputs ∧ Json.WellFormedItems report.outputs

theorem toJson_members (report : TaskReport) :
    ∃ entries, report.toJson = .record entries ∧ (Table.keys entries).Nodup ∧
      Table.get? "inputs" entries = some (.array report.inputs) ∧
      Table.get? "outputs" entries = some (.array report.outputs) := by
  refine ⟨_, rfl, ?_⟩
  simp [Table.keys, Table.get?]

theorem reads {report : TaskReport} (valid : wire.Valid report) : wire.Reads report := by
  obtain ⟨inputsValid, outputsValid⟩ := valid
  intro ending whole other variant
  obtain ⟨entries, same, apart, inputs, outputs⟩ := report.toJson_members
  simp only [wire, same] at variant
  obtain ⟨others, rfl, distinct, carried⟩ := variant.of_entries apart
  simp only [List.forall_mem_cons, inputs, outputs] at carried
  obtain ⟨first, second, -⟩ := carried
  have inputs : (Fields.optional "inputs" (.list .json) []).Reads (Json.memberIn ending others)
      report.inputs :=
    first.optional_plain (Json.Decoder.values_built whole inputsValid) Json.array.inj
  have outputs : (Fields.optional "outputs" (.list .json) []).Reads (Json.memberIn ending others)
      report.outputs :=
    second.optional_plain (Json.Decoder.values_built whole outputsValid) Json.array.inj
  exact Json.decoder_built "TaskReport" whole distinct ((inputs.map TaskReport.mk).seq outputs)

theorem self (report : TaskReport) : Variant wire.shape report.toJson report.toJson := by
  refine .self (Table.ascending_ofList _).nodup ?_
  simp only [List.forall_mem_cons]
  exact ⟨fun stored _ => .same stored, fun stored _ => .same stored, List.forall_mem_nil _⟩

/-- No two reports are written alike. -/
theorem eq_of_toJson {first second : TaskReport} (same : first.toJson = second.toJson) :
    first = second := by
  obtain ⟨before, firstWritten, apart, inputs, outputs⟩ := first.toJson_members
  obtain ⟨after, secondWritten, distinct, otherInputs, otherOutputs⟩ := second.toJson_members
  rw [firstWritten, secondWritten] at same
  have lookups (name : String) : Table.get? name before = Table.get? name after := by
    rw [← Table.get?_ofList apart, ← Table.get?_ofList distinct, Json.object.inj same]
  have sameInputs := lookups "inputs"
  have sameOutputs := lookups "outputs"
  rw [inputs, otherInputs] at sameInputs
  rw [outputs, otherOutputs] at sameOutputs
  cases first
  cases second
  cases sameInputs
  cases sameOutputs
  rfl

end TaskReport

namespace TaskResult

def wire : Wire TaskResult where
  shape := .record
    [("subtask_config", some (.object []), .plain), ("export_params", some (.object []), .plain),
      ("store_params", some (.object []), .plain), ("reset_store_params", some (.array []), .plain),
      ("report", some TaskReport.empty.toJson, TaskReport.wire.shape)]
  encode := toJson
  decoder := decoder
  Valid result := result.subtaskConfig.WellFormed ∧ result.exportParams.WellFormed ∧
    result.storeParams.WellFormed ∧ TaskReport.wire.Valid result.report

theorem toJson_members (result : TaskResult) :
    ∃ entries, result.toJson = .record entries ∧ (Table.keys entries).Nodup ∧
      Table.get? "subtask_config" entries = some (.object result.subtaskConfig) ∧
      Table.get? "export_params" entries = some (.object result.exportParams) ∧
      Table.get? "store_params" entries = some (.object result.storeParams) ∧
      Table.get? "reset_store_params" entries = some (.texts result.resetStoreParams) ∧
      Table.get? "report" entries = some result.report.toJson := by
  refine ⟨_, rfl, ?_⟩
  simp [Table.keys, Table.get?]

theorem reads {result : TaskResult} (valid : wire.Valid result) : wire.Reads result := by
  obtain ⟨subtasksValid, exportValid, storeValid, reportValid⟩ := valid
  intro ending whole other variant
  obtain ⟨entries, same, apart, subtasks, export_, store, reset, report⟩ := result.toJson_members
  simp only [wire, same] at variant
  obtain ⟨others, rfl, distinct, carried⟩ := variant.of_entries apart
  simp only [List.forall_mem_cons, subtasks, export_, store, reset, report] at carried
  obtain ⟨first, second, third, fourth, fifth, -⟩ := carried
  have subtasks : (Fields.optional "subtask_config" .document []).Reads
      (Json.memberIn ending others) result.subtaskConfig :=
    first.optional_plain (Json.Decoder.document_built whole subtasksValid) Json.object.inj
  have export_ : (Fields.optional "export_params" .document []).Reads
      (Json.memberIn ending others) result.exportParams :=
    second.optional_plain (Json.Decoder.document_built whole exportValid) Json.object.inj
  have store : (Fields.optional "store_params" .document []).Reads
      (Json.memberIn ending others) result.storeParams :=
    third.optional_plain (Json.Decoder.document_built whole storeValid) Json.object.inj
  have reset : (Fields.optional "reset_store_params" (.list .text) []).Reads
      (Json.memberIn ending others) result.resetStoreParams :=
    fourth.optional_plain (Json.Decoder.texts_built whole _) fun same =>
      List.map_eq_nil_iff.mp (Json.array.inj same)
  have report : (Fields.optional "report" TaskReport.decoder .empty).Reads
      (Json.memberIn ending others) result.report := by
    apply fifth.optional
    · rintro _ ⟨⟩ other inner
      exact TaskReport.reads reportValid whole other inner
    · rintro (absent | same)
      · cases absent
      · exact TaskReport.eq_of_toJson (Option.some.inj same)
  exact Json.decoder_built "TaskResult" whole distinct
    (((((subtasks.map TaskResult.mk).seq export_).seq store).seq reset).seq report)

theorem self (result : TaskResult) : Variant wire.shape result.toJson result.toJson := by
  obtain ⟨entries, same, apart, -, -, -, -, report⟩ := result.toJson_members
  rw [same]
  refine .self (Table.ascending_ofList _).nodup ?_
  simp only [List.forall_mem_cons, Table.get?_ofList apart, report]
  refine ⟨fun stored _ => .same stored, fun stored _ => .same stored, fun stored _ => .same stored,
    fun stored _ => .same stored, ?_, List.forall_mem_nil _⟩
  rintro _ ⟨⟩
  exact result.report.self

end TaskResult

namespace StateRecord

def wire : Wire StateRecord where
  shape := .record
    [("attempt_id", none, .plain), ("state", none, .plain), ("suspensions", some (.nat 0), .plain),
      ("updated_at", none, .plain)]
  encode := toJson
  decoder := decoder
  Valid record := record.state.WellFormed ∧ record.suspensions < 1 <<< 64

theorem reads {record : StateRecord} (valid : wire.Valid record) : wire.Reads record := by
  obtain ⟨stateValid, fits⟩ := valid
  intro ending whole other variant
  obtain ⟨others, rfl, distinct, carried⟩ := variant.of_record
  simp only [List.forall_mem_cons, Table.get?, String.reduceEq, if_true, if_false] at carried
  obtain ⟨first, second, third, fourth, -⟩ := carried
  have attempt : (Fields.required "attempt_id" .text).Reads (Json.memberIn ending others)
      record.attemptId := first.required_plain rfl
  have state : (Fields.required "state" .document).Reads (Json.memberIn ending others)
      record.state := second.required_plain (Json.Decoder.document_built whole stateValid)
  have suspensions : (Fields.optional "suspensions" (.natural 64) 0).Reads
      (Json.memberIn ending others) record.suspensions := by
    refine third.optional_plain (Json.Decoder.natural_built fits) fun same => ?_
    exact Int.ofNat.inj (Number.whole.inj (Json.number.inj same))
  have updated : (Fields.required "updated_at" .instant).Reads (Json.memberIn ending others)
      record.updatedAt :=
    fourth.required_plain (Json.Decoder.instant_built ending record.updatedAt)
  exact Json.decoder_built "StateRecord" whole distinct
    ((((attempt.map StateRecord.mk).seq state).seq suspensions).seq updated)

theorem self (record : StateRecord) : Variant wire.shape record.toJson record.toJson := by
  refine .self ?_ ?_
  · simp [Table.keys]
  · simp only [List.forall_mem_cons]
    exact ⟨fun stored _ => .same stored, fun stored _ => .same stored,
      fun stored _ => .same stored, fun stored _ => .same stored, List.forall_mem_nil _⟩

end StateRecord

namespace QueuedTask

def wire : Wire QueuedTask where
  shape := .record
    [("lock_id", none, .plain), ("request", none, TaskRequest.wire.shape),
      ("ready_at", none, .plain)]
  encode := toJson
  decoder := decoder
  Valid task := TaskRequest.wire.Valid task.request

theorem toJson_members (task : QueuedTask) :
    ∃ entries, task.toJson = .record entries ∧ (Table.keys entries).Nodup ∧
      Table.get? "lock_id" entries = some (.text task.lockId) ∧
      Table.get? "request" entries = some task.request.toJson ∧
      Table.get? "ready_at" entries = some (.text task.readyAt.text) := by
  refine ⟨_, rfl, ?_⟩
  simp [Table.keys, Table.get?]

theorem reads {task : QueuedTask} (valid : wire.Valid task) : wire.Reads task := by
  intro ending whole other variant
  obtain ⟨entries, same, apart, lock, request, ready⟩ := task.toJson_members
  simp only [wire, same] at variant
  obtain ⟨others, rfl, distinct, carried⟩ := variant.of_entries apart
  simp only [List.forall_mem_cons, lock, request, ready] at carried
  obtain ⟨first, second, third, -⟩ := carried
  have lock : (Fields.required "lock_id" .text).Reads (Json.memberIn ending others)
      task.lockId := first.required_plain rfl
  have request : (Fields.required "request" TaskRequest.decoder).Reads
      (Json.memberIn ending others) task.request :=
    second.required (TaskRequest.reads valid whole)
  have ready : (Fields.required "ready_at" .instant).Reads (Json.memberIn ending others)
      task.readyAt := third.required_plain (Json.Decoder.instant_built ending task.readyAt)
  exact Json.decoder_built "QueuedTask" whole distinct
    (((lock.map QueuedTask.mk).seq request).seq ready)

theorem self (task : QueuedTask) : Variant wire.shape task.toJson task.toJson := by
  obtain ⟨entries, same, apart, -, request, -⟩ := task.toJson_members
  rw [same]
  refine .self (Table.ascending_ofList _).nodup ?_
  simp only [List.forall_mem_cons, Table.get?_ofList apart, request]
  refine ⟨fun stored _ => .same stored, ?_, fun stored _ => .same stored, List.forall_mem_nil _⟩
  rintro _ ⟨⟩
  exact task.request.self

end QueuedTask

/-- All that is stored or sent is read back as it was written, without the optional members that
have their default and with members that no record declares. -/
theorem wires_are_tolerant :
    Suspension.wire.Tolerant ∧ ErrorDocument.wire.Tolerant ∧ TaskRequest.wire.Tolerant ∧
      TaskReport.wire.Tolerant ∧ TaskResult.wire.Tolerant ∧ StateRecord.wire.Tolerant ∧
      QueuedTask.wire.Tolerant ∧ Config.wire.Tolerant :=
  ⟨Wire.tolerant_of_reads (fun suspension _ => suspension.self) fun _ => Suspension.reads,
    Wire.tolerant_of_reads (fun document _ => document.self) fun document _ => document.reads,
    Wire.tolerant_of_reads (fun request _ => request.self) fun _ => TaskRequest.reads,
    Wire.tolerant_of_reads (fun report _ => report.self) fun _ => TaskReport.reads,
    Wire.tolerant_of_reads (fun result _ => result.self) fun _ => TaskResult.reads,
    Wire.tolerant_of_reads (fun record _ => record.self) fun _ => StateRecord.reads,
    Wire.tolerant_of_reads (fun task _ => task.self) fun _ => QueuedTask.reads,
    Wire.tolerant_of_reads (fun config _ => .same config.toJson) fun _ => Config.reads⟩

-- Neither the configuration nor the state need be there, and nobody knows a zone or a rank.
theorem sparse_entry_is_read :
    QueuedTask.wire.decoder.run
        (.object
          [("zone", .text "eu"), ("lock_id", .text "lock-1"),
            ("ready_at", .text "1970-01-01T00:00:00Z"),
            ("request", .object
              [("task_name", .text "load"), ("rank", .array [.nat 3]),
                ("attempt_id", .text "a-1")])]) =
      .ok ⟨"lock-1", ⟨"a-1", "load", .empty, []⟩, .epoch⟩ := by
  obtain ⟨-, -, -, -, -, -, queued, -⟩ := wires_are_tolerant
  refine (queued ⟨"lock-1", ⟨"a-1", "load", .empty, []⟩, .epoch⟩ ?_).2 _ ?_
  · exact ⟨⟨List.Pairwise.nil, trivial⟩, List.Pairwise.nil, trivial⟩
  · have request : Variant TaskRequest.wire.shape
        (TaskRequest.toJson ⟨"a-1", "load", .empty, []⟩)
        (.object
          [("task_name", .text "load"), ("rank", .array [.nat 3]),
            ("attempt_id", .text "a-1")]) := by
      refine .record (by decide) ?_
      simp only [List.forall_mem_cons]
      exact ⟨.kept (.same _), .kept (.same _), .dropped, .dropped, List.forall_mem_nil _⟩
    refine .record (by decide) ?_
    simp only [List.forall_mem_cons]
    exact ⟨.kept (.same _), .kept request, .kept (.same _), List.forall_mem_nil _⟩

end Resumable
