namespace Stepwise

structure PlannerSettings where
  topK : Nat := 3
  fetchUrl : String := "https://example.com"
deriving DecidableEq

structure SearchSettings where
  baseUrl : String := "https://example.com"
deriving DecidableEq

structure FetchSettings where
  timeoutSecs : Nat := 10
  maxResponseBytes : Nat := 262144
deriving DecidableEq

-- Without a limit a run may take any time.
structure RunSettings where
  runTimeoutSecs : Option Nat := none
deriving DecidableEq

structure Settings where
  planner : PlannerSettings := {}
  searcher : SearchSettings := {}
  fetcher : FetchSettings := {}
  executor : RunSettings := {}
deriving DecidableEq

end Stepwise
