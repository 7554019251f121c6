import Stepwise.Settings.Basic
import Stepwise.Toml.Text.Writer

namespace Stepwise

namespace Toml

def numberLine (name : String) (n : Nat) : List Char :=
  name.toList ++ [' ', '=', ' '] ++ Nat.toDigits 10 n ++ ['\n']

def textLine (name s : String) : List Char :=
  name.toList ++ [' ', '=', ' '] ++ writeText s.toList ++ ['\n']

def headingLine (name : String) : List Char := '[' :: name.toList ++ [']', '\n']

end Toml

namespace Settings

open Toml

-- The settings document: every field but an absent limit, a blank line before each further section.
def document (s : Settings) : List Char :=
  headingLine "planner" ++ numberLine "top_k" s.planner.topK ++
    textLine "fetch_url" s.planner.fetchUrl ++
  '\n' :: headingLine "searcher" ++ textLine "base_url" s.searcher.baseUrl ++
  '\n' :: headingLine "fetcher" ++ numberLine "timeout_secs" s.fetcher.timeoutSecs ++
    numberLine "max_response_bytes" s.fetcher.maxResponseBytes ++
  '\n' :: headingLine "executor" ++
    (match s.executor.runTimeoutSecs with
      | some secs => numberLine "run_timeout_secs" secs
      | none => [])

-- Whether every number has a written form; they are signed numbers of 64 bits there.
def writable (s : Settings) : Bool :=
  s.planner.topK < 0x8000000000000000 && s.fetcher.timeoutSecs < 0x8000000000000000 && s.fetcher.maxResponseBytes < 0x8000000000000000 &&
    match s.executor.runTimeoutSecs with
    | some secs => secs < 0x8000000000000000
    | none => true

def write? (s : Settings) : Option (List Char) := if s.writable then some s.document else none

end Settings

end Stepwise
