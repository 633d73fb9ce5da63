import ScopedAnalytics.Failure
import ScopedAnalytics.Query

/-! What is noted about a request while it is served. Each notice is an entry of a journal: it has
a level, the name of the part that noted it, an event and fields. -/
namespace ScopedAnalytics

inductive Level where
  | debug | info | warning | error | critical
deriving DecidableEq, Repr

namespace Level

def name : Level → String
  | debug => "debug"
  | info => "info"
  | warning => "warning"
  | error => "error"
  | critical => "critical"

def rank : Level → Nat
  | debug => 10
  | info => 20
  | warning => 30
  | error => 40
  | critical => 50

instance : Vocabulary Level where
  title := "level"
  values := [debug,info,warning,error,critical]
  word := name

end Level

structure Entry where
  level : Level
  logger : String
  event : String
  fields : List (String × Json)
  isException : Bool

inductive Notice where
  | requested (resources : List Resource) (scope : Scope) (granularity : Granularity)
  | answered (points : Nat)
  | refused (failure : Failure)
  | queryFailed (resource : Resource)
  | rowsLeftOut (count : Nat)
  | querySent (query : Query)
  | queryAnswered (resource : Resource) (rows : Nat)
  | runFailed (failure : Failure)
  | runCancelled

namespace Notice

def failureFields (failure : Failure) : List (String × Json) :=
  [("kind",.str failure.kind.name),("error",.text failure.message)]

def serviceLogger : String := "hub_analytics.service"

def clientLogger : String := "hub_analytics.cube.client"

def mergeLogger : String := "hub_analytics.merger"

def programLogger : String := "hub_analytics.__main__"

def entry : Notice → Entry
  | requested resources scope granularity =>
    ⟨.info,serviceLogger,"analytics_request",[
      ("resources",.strs (resources.map Resource.name)),
      ("scope",.str scope.key.name),
      ("scope_id",.str scope.id),
      ("granularity",.str granularity.name)],false⟩
  | answered points =>
    ⟨.info,serviceLogger,"analytics_request_done",[("datapoints",.int points)],false⟩
  | refused failure =>
    ⟨.warning,serviceLogger,"analytics_request_failed",failureFields failure,false⟩
  | queryFailed resource =>
    ⟨.error,serviceLogger,"cube_query_error",[("resource",.str resource.name)],true⟩
  | rowsLeftOut count =>
    ⟨.debug,mergeLogger,"undated_rows_dropped",[("count",.int count)],false⟩
  | querySent query =>
    ⟨.debug,clientLogger,"cube_query",
      [("resource",.str query.resource.name),("query",query.toJson)],false⟩
  | queryAnswered resource rows =>
    ⟨.debug,clientLogger,"cube_query_done",
      [("resource",.str resource.name),("row_count",.int rows)],false⟩
  | runFailed failure =>
    ⟨.error,programLogger,"analytics_failed",failureFields failure,false⟩
  | runCancelled => ⟨.info,programLogger,"analytics_cancelled",[],false⟩

end Notice
end ScopedAnalytics
