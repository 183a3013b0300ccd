import HotReload.Commons

set_option autoImplicit false

namespace HotReload.Commons

variable {τ : Type}

theorem client?_eq_some_iff {commons : Commons τ} {place : Nat} {client : Client τ} :
    commons.client? place = some client ↔ ∃ tenant transport subscribers,
      commons.tenants[place]? = some tenant ∧
      commons.transports[tenant.own.transport]? = some transport ∧
      commons.buses[tenant.bus]? = some subscribers ∧
      { tenant.own with transport, subscribers, events := commons.events } = client := by
  simp only [client?, Option.bind_eq_bind, Option.bind_eq_some_iff, Option.some.injEq]
  constructor
  next =>
    rintro ⟨tenant, held, transport, used, subscribers, listening, same⟩
    exact ⟨tenant, transport, subscribers, held, used, listening, same⟩
  next =>
    rintro ⟨tenant, transport, subscribers, held, used, listening, same⟩
    exact ⟨tenant, held, transport, used, subscribers, listening, same⟩

section act

variable {commons : Commons τ} {place : Nat} {tenant : Tenant} {client : Client τ}

theorem act_eq (held : commons.tenants[place]? = some tenant)
    (stands : commons.client? place = some client) (f : Client τ → Client τ) :
    commons.act place f = commons.putBack place tenant (f client) := by
  simp only [act, held, stands]

theorem client?_act (stands : commons.client? place = some client) (f : Client τ → Client τ) :
    (commons.act place f).client? place = some (f client) := by
  obtain ⟨tenant, _, _, held, _⟩ := client?_eq_some_iff.mp stands
  have inside := commons.located tenant (List.mem_of_getElem? held)
  rw [act_eq held stands, client?_eq_some_iff]
  refine ⟨tenant.keep (f client), (f client).transport, (f client).subscribers, ?_, ?_, ?_, rfl⟩
  next => simp [putBack, held]
  next => exact List.getElem?_set_self inside.1
  next => exact List.getElem?_set_self inside.2

theorem buses_act (held : commons.tenants[place]? = some tenant)
    (stands : commons.client? place = some client) (f : Client τ → Client τ) :
    (commons.act place f).buses[tenant.bus]? = some (f client).subscribers := by
  have inside := commons.located tenant (List.mem_of_getElem? held)
  rw [act_eq held stands]
  exact List.getElem?_set_self inside.2

end act

def actAll (commons : Commons τ) (acts : List (Nat × (Client τ → Client τ))) : Commons τ :=
  acts.foldl (fun commons act => commons.act act.1 act.2) commons

theorem client?_actAll {commons : Commons τ} {place : Nat} {client : Client τ}
    (stands : commons.client? place = some client) (acts : List (Client τ → Client τ)) :
    (commons.actAll (acts.map fun f => (place, f))).client? place =
      some (acts.foldl (fun client f => f client) client) := by
  induction acts generalizing commons client with
  | nil => exact stands
  | cons f rest ih => exact ih (client?_act stands f)

-- All that was there is there as it was, nobody came and nothing happened; at most there are
-- transports and buses that nobody uses.
structure Spares (before after : Commons τ) : Prop where
  transports : before.transports <+: after.transports
  buses : before.buses <+: after.buses
  tenants : after.tenants = before.tenants
  events : after.events = before.events

theorem prefix_set {α : Type} {all more : List α} (front : all <+: more) {place : Nat}
    (inside : place < all.length) (x : α) : all.set place x <+: more.set place x := by
  obtain ⟨rest, rfl⟩ := front
  rw [List.set_append_left place x inside]
  exact List.prefix_append _ rest

theorem getElem?_prefix {α : Type} {all more : List α} (front : all <+: more) {place : Nat}
    (inside : place < all.length) : more[place]? = all[place]? := by
  rw [List.prefix_iff_getElem?.mp front place inside, List.getElem?_eq_getElem inside]

namespace Spares

variable {before after : Commons τ}

theorem refl (commons : Commons τ) : commons.Spares commons :=
  ⟨List.prefix_rfl, List.prefix_rfl, rfl, rfl⟩

theorem client? (spares : before.Spares after) (place : Nat) :
    after.client? place = before.client? place := by
  unfold Commons.client?
  rw [spares.tenants]
  cases held : before.tenants[place]? with
  | none => rfl
  | some tenant =>
    -- Its places are among the first ones, and those mean the same in both.
    have inside := before.located tenant (List.mem_of_getElem? held)
    simp only [Option.bind_eq_bind, Option.bind_some, spares.events,
      getElem?_prefix spares.transports inside.1, getElem?_prefix spares.buses inside.2]

theorem putBack (spares : before.Spares after) {tenant : Tenant}
    (inside : tenant.Located before.transports before.buses) (place : Nat) (client : Client τ) :
    (before.putBack place tenant client).Spares (after.putBack place tenant client) where
  transports := prefix_set spares.transports inside.1 client.transport
  buses := prefix_set spares.buses inside.2 client.subscribers
  tenants := congrArg (List.modify · place _) spares.tenants
  events := rfl

theorem act (spares : before.Spares after) (place : Nat) (f : Client τ → Client τ) :
    (before.act place f).Spares (after.act place f) := by
  unfold Commons.act
  rw [spares.client? place, spares.tenants]
  cases held : before.tenants[place]? with
  | none => exact spares
  | some tenant =>
    have inside := before.located tenant (List.mem_of_getElem? held)
    cases before.client? place with
    | none => exact spares
    | some client => exact spares.putBack inside place (f client)

theorem actAll (spares : before.Spares after) (acts : List (Nat × (Client τ → Client τ))) :
    (before.actAll acts).Spares (after.actAll acts) := by
  induction acts generalizing before after with
  | nil => exact spares
  | cons first rest ih => exact ih (spares.act first.1 first.2)

end Spares

end HotReload.Commons
