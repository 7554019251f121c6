import Stepwise.Settings.Error
import Stepwise.Settings.Basic
import Stepwise.Text.Utf8
import Stepwise.Toml.Reader

namespace Stepwise

namespace Toml.Node

def text? : Node → Option String
  | text s => some s
  | _ => none

-- A whole number below a limit.
def natural? (limit : Nat) : Node → Option Nat
  | integer z => if 0 ≤ z ∧ z < limit then some z.toNat else none
  | _ => none

-- What a section holds for the field with this place and name. Beside tables, lists of the fields in
-- their order are sections, and dates are sections that hold nothing. The outer `none` is no section.
def field? (place : Nat) (name : String) : Node → Option (Option Node)
  | table _ ms => some (ms.lookup name)
  | array items => some items[place]?
  | series latest before => some (((latest :: before).reverse.map (table .headed))[place]?)
  | moment => some none
  | _ => none

def fieldOr {α : Type} (n : Node) (place : Nat) (name : String) (read : Node → Option α)
    (absent : α) : Option α :=
  match n.field? place name with
  | none => none
  | some none => some absent
  | some (some v) => read v

end Toml.Node

open Toml

def PlannerSettings.ofNode? (n : Node) : Option PlannerSettings := do
  let base : PlannerSettings := {}
  some ⟨← n.fieldOr 0 "top_k" (Node.natural? 0x100000000) base.topK,
    ← n.fieldOr 1 "fetch_url" Node.text? base.fetchUrl⟩

def SearchSettings.ofNode? (n : Node) : Option SearchSettings := do
  let base : SearchSettings := {}
  some ⟨← n.fieldOr 0 "base_url" Node.text? base.baseUrl⟩

def FetchSettings.ofNode? (n : Node) : Option FetchSettings := do
  let base : FetchSettings := {}
  some ⟨← n.fieldOr 0 "timeout_secs" (Node.natural? 0x10000000000000000) base.timeoutSecs,
    ← n.fieldOr 1 "max_response_bytes" (Node.natural? 0x10000000000000000) base.maxResponseBytes⟩

def RunSettings.ofNode? (n : Node) : Option RunSettings := do
  some ⟨← n.fieldOr 0 "run_timeout_secs" (fun v => (v.natural? 0x10000000000000000).map some) none⟩

namespace Settings

def sectionOr {α : Type} (ms : Members) (name : String) (read : Node → Option α) (absent : α) :
    Option α :=
  match ms.lookup name with
  | none => some absent
  | some n => read n

-- Sections that are absent have their defaults, and unknown ones are ignored.
def ofMembers? (ms : Members) : Option Settings := do
  some ⟨← sectionOr ms "planner" PlannerSettings.ofNode? {},
    ← sectionOr ms "searcher" SearchSettings.ofNode? {},
    ← sectionOr ms "fetcher" FetchSettings.ofNode? {},
    ← sectionOr ms "executor" RunSettings.ofNode? {}⟩

def read? (text : List Char) : Option Settings := (Toml.read? text).bind ofMembers?

-- The content of a settings file: its bytes, or why there are none.
def ofFile (path : String) : Except String (List UInt8) → Except SettingsError Settings
  | .error detail => .error (.unreadable path detail)
  | .ok bytes =>
    match Text.decode? bytes with
    | none => .error (.unreadable path "stream did not contain valid UTF-8")
    | some text =>
      match read? text with
      | some settings => .ok settings
      | none => .error (.invalid path "not a settings document")

end Settings

end Stepwise
