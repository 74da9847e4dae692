import PredictiveScaling.Evaluation.Round
import PredictiveScaling.Journal
import PredictiveScaling.Remote.Message

/-!
# Events and calls

A controller is driven by events: what its timers, its sources, the orchestrator and the
served models have to say. In turn it makes calls, each of which is answered by an event,
at once, later or never.
-/
namespace PredictiveScaling

inductive Event where
  /-- A collection loop runs for the first time. -/
  | collectionStarts (loop : Nat)
  /-- The ticker of a collection loop is due. -/
  | collectionDue (loop : Nat)
  /-- A collection loop takes notice of a signal. -/
  | collectionSignalled (loop : Nat)
  /-- A query has ended; without an answer its time has run out. -/
  | queryEnds (loop : Nat) (answer : Option (Except SourceError (List Sample)))
  /-- An evaluation loop runs for the first time. -/
  | evaluationLoopStarts (loop : Nat)
  /-- The ticker of an evaluation loop is due. -/
  | evaluationLoopDue (loop : Nat)
  /-- An evaluation loop takes notice of a signal. -/
  | evaluationLoopSignalled (loop : Nat)
  /-- A forecast of a round is begun. -/
  | predictionStarts (evaluation prediction : Nat)
  /-- What came of asking the model. -/
  | replyArrives (evaluation prediction : Nat) (reply : Except PredictError PredictReply)
  /-- The current count, for a forecast. -/
  | predictionCount (evaluation prediction : Nat) (count : Except SourceError Int32)
  /-- What came of sending the request of a training. -/
  | dispatchEnds (evaluation : Nat) (result : Except PredictError Unit)
  /-- The current count, for the goal. -/
  | goalCount (evaluation : Nat) (count : Except SourceError Int32)
  /-- What came of setting a count. -/
  | goalSet (evaluation : Nat) (result : Except SourceError Unit)
  /-- A training ends. -/
  | trainingEnds (predictor round : Nat) (arrival : Arrival)

inductive Call where
  /-- Let an event happen at a time; one in the past happens at once. -/
  | wake (due : Nat) (event : Event)
  /-- Query the source of a collector for a loop. -/
  | query (loop collector : Nat) (timeout : Duration)
  /-- Ask the model of a predictor for a forecast. -/
  | ask (evaluation prediction predictor : Nat) (request : PredictRequest)
  /-- Send the request of a training, in a round. -/
  | dispatch (evaluation predictor : Nat) (request : TrainRequest)
  /-- Wait for the report of a training. -/
  | awaitReport (predictor round : Nat)
  /-- Read the current count for a forecast. -/
  | countForPrediction (evaluation prediction : Nat)
  /-- Read the current count for the goal. -/
  | countForGoal (evaluation : Nat)
  /-- Set the count. -/
  | setCount (evaluation : Nat) (count : Int32)
  /-- Write to the journal. -/
  | journal (record : Journal.Record)

end PredictiveScaling
