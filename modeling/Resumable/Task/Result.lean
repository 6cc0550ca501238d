import Resumable.Error

/-!
What a task gives back: a report of what it read and wrote, and parameters for the tasks after it.
-/

namespace Resumable

/-- What a task read and wrote. -/
structure TaskReport where
  inputs : List Json
  outputs : List Json

namespace TaskReport

def empty : TaskReport := ⟨[], []⟩

def isEmpty (report : TaskReport) : Bool := report.inputs.isEmpty && report.outputs.isEmpty

def append (first second : TaskReport) : TaskReport :=
  ⟨first.inputs ++ second.inputs, first.outputs ++ second.outputs⟩

def decoder : Json.Decoder TaskReport :=
  Json.Fields.decoder "TaskReport" <|
    TaskReport.mk <$> .optional "inputs" (.list .json) [] <*> .optional "outputs" (.list .json) []

def toJson (report : TaskReport) : Json :=
  .record [("inputs", .array report.inputs), ("outputs", .array report.outputs)]

end TaskReport

structure TaskResult where
  subtaskConfig : Document
  exportParams : Document
  storeParams : Document
  /-- Stored parameters to drop before the new ones are stored. -/
  resetStoreParams : List String
  report : TaskReport

namespace TaskResult

def empty : TaskResult := ⟨[], [], [], [], .empty⟩

def isEmpty (result : TaskResult) : Bool :=
  result.subtaskConfig.isEmpty && result.exportParams.isEmpty && result.storeParams.isEmpty &&
    result.resetStoreParams.isEmpty && result.report.isEmpty

def storeParam (result : TaskResult) (key : String) (value : Json) : TaskResult :=
  { result with storeParams := Table.insert key value result.storeParams }

def exportParam (result : TaskResult) (key : String) (value : Json) : TaskResult :=
  { result with exportParams := Table.insert key value result.exportParams }

def withReport (result : TaskResult) (report : TaskReport) : TaskResult :=
  { result with report := result.report.append report }

def decoder : Json.Decoder TaskResult :=
  Json.Fields.decoder "TaskResult" <|
    TaskResult.mk <$> .optional "subtask_config" .document [] <*>
      .optional "export_params" .document [] <*> .optional "store_params" .document [] <*>
      .optional "reset_store_params" (.list .text) [] <*>
      .optional "report" TaskReport.decoder .empty

def toJson (result : TaskResult) : Json :=
  .record
    [("subtask_config", .object result.subtaskConfig),
      ("export_params", .object result.exportParams),
      ("store_params", .object result.storeParams),
      ("reset_store_params", .texts result.resetStoreParams),
      ("report", result.report.toJson)]

end TaskResult

end Resumable
