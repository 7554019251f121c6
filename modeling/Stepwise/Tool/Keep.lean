import Stepwise.Tool.Basic
import Stepwise.Tool.World

namespace Stepwise.Keep

def name : String := "Store"

-- A write keeps `value`, or null without one, and gives true; a read gives what is kept, or null.
def result (args : Args) (store : Store) : Except ToolError (Json × Store) := do
  let action ← args.requireText "action" name
  match StoreAction.ofName? action with
  | none => throw (.invalidArg name "action" (.unknownAction action))
  | some action =>
    let key ← args.requireText "key" name
    match action with
    | .write => return (.bool true, store.insert key ((args.get? "value").getD .null))
    | .read => return ((store.get? key).getD .null, store)

def tool {ν : Type} : Tool (World ν) where
  name := name
  description := "Read or write agent memory (args: action, key, value)."
  call args context world :=
    match result args world.store with
    | .error e => (.error e, context.frame, world)
    | .ok (v, store) => (.ok v, context.frame, { world with store })

end Stepwise.Keep
