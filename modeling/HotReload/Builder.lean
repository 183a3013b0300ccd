import HotReload.Commons

set_option autoImplicit false

namespace HotReload

-- The transport and the subscribers are values if the client will have them to itself, and places
-- if it will share them.
structure Builder (τ : Type) (β : Type := List Subscriber) where
  options : Options := .default
  page : Option Page := none
  transport : Option τ := none
  subscribers : Option β := none

namespace Builder

inductive Call (τ : Type) (β : Type := List Subscriber) where
  | path (value : String)
  | assetPrefix (value : String)
  | timeout (value : Duration)
  | log (value : Bool)
  -- Replaces all of the options.
  | options (value : Options)
  | page (value : Page)
  | transport (value : τ)
  | subscribers (value : β)

variable {τ β : Type}

def apply (b : Builder τ β) : Call τ β → Builder τ β
  | .path path => { b with options := { b.options with path } }
  | .assetPrefix assetPrefix => { b with options := { b.options with assetPrefix } }
  | .timeout timeout => { b with options := { b.options with timeout } }
  | .log log => { b with options := { b.options with log } }
  | .options options => { b with options }
  | .page page => { b with page := some page }
  | .transport transport => { b with transport := some transport }
  | .subscribers subscribers => { b with subscribers := some subscribers }

-- The fallback is the transport of those that name none; without a runtime nothing runs.
def spawn (b : Builder τ) (fallback : τ) (nesting : Nat) (hasRuntime : Bool) :
    Except Error (Client τ) := do
  b.options.validate
  match b.page with
  | none => .error (.config .noPage)
  | some page =>
    if hasRuntime then
      .ok (Client.spawn nesting b.options page (b.transport.getD fallback) (b.subscribers.getD []))
    else .error (.config .notRunning)

section shared

variable (commons : Commons τ)
  (b : Builder (Fin commons.transports.length) (Fin commons.buses.length)) (fallback : τ) (nesting : Nat)

def transportPlace : Nat := (Commons.provide commons.transports b.transport fallback).2

def busPlace : Nat := (Commons.provide commons.buses b.subscribers []).2

def furnish : Commons τ :=
  { commons with
    transports := (Commons.provide commons.transports b.transport fallback).1
    buses := (Commons.provide commons.buses b.subscribers []).1
    located := fun tenant present =>
      (commons.located tenant present).imp
        (Nat.lt_of_lt_of_le · (Commons.prefix_provide ..).length_le)
        (Nat.lt_of_lt_of_le · (Commons.prefix_provide ..).length_le) }

def tenant (page : Page) : Tenant :=
  ⟨b.busPlace commons, Client.spawn nesting b.options page (b.transportPlace commons fallback) []⟩

def lodge (page : Page) : Commons τ :=
  { b.furnish commons fallback with
    tenants := commons.tenants ++ [b.tenant commons fallback nesting page]
    located := by
      simpa [or_imp, forall_and] using
        ⟨(b.furnish commons fallback).located, Commons.provide_lt .., Commons.provide_lt ..⟩ }

def spawnIn (hasRuntime : Bool) : Except Error Nat × Commons τ :=
  match b.options.validate, b.page with
  | .error cause, _ => (.error cause, commons)
  | .ok _, none => (.error (.config .noPage), commons)
  | .ok _, some page =>
    if hasRuntime then (.ok commons.tenants.length, b.lodge commons fallback nesting page)
    -- Nobody knows the places of what was made.
    else (.error (.config .notRunning), b.furnish commons fallback)

end shared

end Builder

end HotReload
