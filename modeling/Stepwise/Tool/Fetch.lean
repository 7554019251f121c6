import Stepwise.Settings.Basic
import Stepwise.Tool.Basic
import Stepwise.Tool.World

namespace Stepwise.Fetch

def name : String := "Fetcher"

-- The first bytes of a body as text, within the cap. Decoding may make a text longer than its bytes,
-- so it is cut once more, which is always possible.
def content (cap : Nat) (body : List UInt8) : String :=
  String.ofList ((Text.truncate? cap (Text.decodeLossy (body.take cap))).getD [])

-- A body that ends before what was announced, or before the cap, is an error.
def read (cap : Nat) (url : String) : Reply → Except ToolError Json
  | .unreachable detail => .error (.transport url detail)
  | .answer status declared body =>
    if 400 ≤ status then .error (.httpStatus url status)
    else if body.length < min declared cap then
      .error (.transport url ("HTTP " ++ toString status ++
        " but failed to read body: response body closed before all bytes were read"))
    else
      .ok (.obj [("content", .str (content cap (body.take declared))), ("status", .ofNat status),
        ("url", .str url)])

def checkUrl (url : String) : Except ToolError Unit :=
  match Url.parse url with
  | .error e => .error (.invalidArg name "url" (.badUrl url e))
  | .ok parsed =>
    if parsed.scheme = "http" ∨ parsed.scheme = "https" then .ok ()
    else .error (.invalidArg name "url" (.notWebUrl url))

def tool {ν : Type} (settings : FetchSettings) (network : Network ν) : Tool (World ν) where
  name := name
  description := "Fetch a URL via HTTP GET (args: url). Returns \x7bcontent, url, status\x7d."
  call args context world :=
    match args.requireText "url" name with
    | .error e => (.error e, context.frame, world)
    | .ok url =>
      match checkUrl url with
      | .error e => (.error e, context.frame, world)
      | .ok () =>
        let (reply, net) := network.get settings.timeoutSecs url world.net
        (read settings.maxResponseBytes url reply, context.frame, { world with net })

end Stepwise.Fetch
