import HotReload.Client

set_option autoImplicit false

namespace HotReload

structure Tenant where
  -- The place of its bus, where its subscribers are.
  bus : Nat
  -- What nobody else can change; its transport is only a place here.
  own : Client Nat

namespace Tenant

variable {τ : Type}

def Located (tenant : Tenant) (transports : List τ) (buses : List (List Subscriber)) : Prop :=
  tenant.own.transport < transports.length ∧ tenant.bus < buses.length

def keep (client : Client τ) (tenant : Tenant) : Tenant :=
  { tenant with
    own := { client with transport := tenant.own.transport, subscribers := [], events := [] } }

end Tenant

structure Commons (τ : Type) where
  transports : List τ := []
  buses : List (List Subscriber) := []
  tenants : List Tenant := []
  -- What happened, in order, whoever did it.
  events : List Event := []
  located : ∀ tenant ∈ tenants, tenant.Located transports buses := by simp

namespace Commons

variable {τ : Type}

-- A client with all that it sees.
def client? (commons : Commons τ) (place : Nat) : Option (Client τ) := do
  let tenant ← commons.tenants[place]?
  let transport ← commons.transports[tenant.own.transport]?
  let subscribers ← commons.buses[tenant.bus]?
  some { tenant.own with transport, subscribers, events := commons.events }

theorem located_keep {commons : Commons τ} {client : Client τ} {place : Nat} {tenant : Tenant}
    (present : tenant ∈ commons.tenants.modify place (Tenant.keep client)) :
    tenant.Located commons.transports commons.buses := by
  obtain ⟨i, found⟩ := List.mem_iff_getElem?.mp present
  rw [List.getElem?_modify] at found
  obtain ⟨former, held, rfl⟩ := Option.map_eq_some_iff.mp found
  have stood := commons.located former (List.mem_of_getElem? held)
  by_cases acted : place = i
  next => simpa [acted, Tenant.keep, Tenant.Located] using stood
  next => simpa [acted] using stood

-- The places stay the same, so each tenant is still at one.
def putBack (commons : Commons τ) (place : Nat) (tenant : Tenant) (client : Client τ) :
    Commons τ :=
  { transports := commons.transports.set tenant.own.transport client.transport
    buses := commons.buses.set tenant.bus client.subscribers
    tenants := commons.tenants.modify place (Tenant.keep client)
    events := client.events
    located := fun tenant present => by simpa [Tenant.Located] using located_keep present }

-- Lets a client act; what it does to its transport and on its bus is done for all.
def act (commons : Commons τ) (place : Nat) (f : Client τ → Client τ) : Commons τ :=
  match commons.tenants[place]?, commons.client? place with
  | some tenant, some client => commons.putBack place tenant (f client)
  | _, _ => commons

-- The place that is given in a list, or else a new one at its end.
def provide {α : Type} (all : List α) (given : Option (Fin all.length)) (fresh : α) :
    List α × Nat :=
  match given with
  | some place => (all, place)
  | none => (all ++ [fresh], all.length)

section provide

variable {α : Type} (all : List α) (given : Option (Fin all.length)) (fresh : α)

theorem prefix_provide : all <+: (provide all given fresh).1 := by
  cases given with
  | none => exact List.prefix_append all [fresh]
  | some place => exact List.prefix_rfl

theorem getElem?_provide :
    (provide all given fresh).1[(provide all given fresh).2]? =
      some ((given.map all.get).getD fresh) := by
  cases given with
  | none => exact List.getElem?_concat_length
  | some place => exact List.getElem?_eq_getElem place.isLt

theorem provide_lt : (provide all given fresh).2 < (provide all given fresh).1.length :=
  (List.getElem?_eq_some_iff.mp (getElem?_provide all given fresh)).1

variable {all given} in
theorem provide_of_given {place : Fin all.length} (chosen : given = some place) :
    (provide all given fresh).2 = place := by
  rw [chosen, provide]

end provide

end Commons

end HotReload
