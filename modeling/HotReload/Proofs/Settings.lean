import HotReload.Builder
import HotReload.Proofs.Sharing
import Mathlib.Data.List.Induction

set_option autoImplicit false

namespace HotReload.Builder

variable {τ β : Type}

structure Said (τ β : Type) where
  path : Option String := none
  assetPrefix : Option String := none
  timeout : Option Duration := none
  log : Option Bool := none
  page : Option Page := none
  transport : Option τ := none
  subscribers : Option β := none

def Call.said : Call τ β → Said τ β
  | .path value => { path := some value }
  | .assetPrefix value => { assetPrefix := some value }
  | .timeout value => { timeout := some value }
  | .log value => { log := some value }
  | .options value =>
    { path := some value.path, assetPrefix := some value.assetPrefix
      timeout := some value.timeout, log := some value.log }
  | .page value => { page := some value }
  | .transport value => { transport := some value }
  | .subscribers value => { subscribers := some value }

def latest {α : Type} (about : Said τ β → Option α) (calls : List (Call τ β)) : Option α :=
  -- Calls that say nothing about it do not count.
  (calls.filterMap fun call => about call.said).getLast?

def lastSaid (calls : List (Call τ β)) : Said τ β :=
  { path := latest Said.path calls
    assetPrefix := latest Said.assetPrefix calls
    timeout := latest Said.timeout calls
    log := latest Said.log calls
    page := latest Said.page calls
    transport := latest Said.transport calls
    subscribers := latest Said.subscribers calls }

namespace Said

def options (said : Said τ β) : Options :=
  { path := said.path.getD Options.default.path
    assetPrefix := said.assetPrefix.getD Options.default.assetPrefix
    timeout := said.timeout.getD Options.default.timeout
    log := said.log.getD Options.default.log }

def builder (said : Said τ β) : Builder τ β :=
  ⟨said.options, said.page, said.transport, said.subscribers⟩

def calls (said : Said τ β) : List (Call τ β) :=
  .options said.options :: (said.page.map Call.page).toList ++
    (said.transport.map Call.transport).toList ++ (said.subscribers.map Call.subscribers).toList

def or (later former : Said τ β) : Said τ β :=
  { path := later.path.or former.path
    assetPrefix := later.assetPrefix.or former.assetPrefix
    timeout := later.timeout.or former.timeout
    log := later.log.or former.log
    page := later.page.or former.page
    transport := later.transport.or former.transport
    subscribers := later.subscribers.or former.subscribers }

end Said

theorem latest_concat {α : Type} (about : Said τ β → Option α) (calls : List (Call τ β))
    (call : Call τ β) : latest about (calls ++ [call]) = (about call.said).or (latest about calls) := by
  unfold latest
  rw [List.filterMap_append, List.getLast?_append]
  cases said : about call.said <;> simp [said]

theorem lastSaid_concat (calls : List (Call τ β)) (call : Call τ β) :
    lastSaid (calls ++ [call]) = call.said.or (lastSaid calls) := by
  simp only [lastSaid, latest_concat, Said.or]

theorem apply_builder (said : Said τ β) (call : Call τ β) :
    said.builder.apply call = (call.said.or said).builder := by
  cases call <;> rfl

theorem foldl_apply (calls : List (Call τ β)) : calls.foldl apply {} = (lastSaid calls).builder := by
  -- From the end, since a call outdoes those before it.
  induction calls using List.reverseRecOn with
  | nil => rfl
  | append_singleton calls call ih =>
    rw [List.foldl_append, List.foldl_cons, List.foldl_nil, ih, apply_builder, lastSaid_concat]

theorem foldl_calls (said : Said τ β) : said.calls.foldl apply {} = said.builder := by
  obtain ⟨_, _, _, _, page, transport, subscribers⟩ := said
  cases page <;> cases transport <;> cases subscribers <;> rfl

def faults (o : Options) (page : Option Page) (hasRuntime : Bool) : List ConfigError :=
  (if o.path = "" then [.noPath] else []) ++ (if page.isNone then [.noPage] else []) ++
    (if hasRuntime then [] else [.notRunning])

theorem faults_cases (o : Options) (page : Option Page) (hasRuntime : Bool) :
    (o.validate = .error (.config .noPath) ∧ (faults o page hasRuntime).head? = some .noPath) ∨
    o.validate = .ok () ∧
      ((page = none ∧ (faults o page hasRuntime).head? = some .noPage) ∨
        ∃ chosen, page = some chosen ∧
          ((hasRuntime = false ∧ (faults o page hasRuntime).head? = some .notRunning) ∨
            (hasRuntime = true ∧ faults o page hasRuntime = []))) := by
  by_cases path : o.path = ""
  next => exact .inl (by simp [Options.validate, faults, path])
  next =>
    refine .inr ⟨by simp [Options.validate, path], ?_⟩
    cases page with
    | none => exact .inl (by simp [faults, path])
    | some chosen => cases hasRuntime <;> simp [faults, path]

section spawn

variable (commons : Commons τ)
  (b : Builder (Fin commons.transports.length) (Fin commons.buses.length)) (fallback : τ) (nesting : Nat)

-- What is at the places now, for a client that has it to itself.
def resolve : Builder τ :=
  { options := b.options
    page := b.page
    transport := b.transport.map commons.transports.get
    subscribers := b.subscribers.map commons.buses.get }

theorem spares_furnish : commons.Spares (b.furnish commons fallback) where
  transports := Commons.prefix_provide commons.transports b.transport fallback
  buses := Commons.prefix_provide commons.buses b.subscribers []
  tenants := rfl
  events := rfl

theorem tenants_lodge (page : Page) :
    (b.lodge commons fallback nesting page).tenants[commons.tenants.length]? =
      some (b.tenant commons fallback nesting page) :=
  List.getElem?_concat_length

theorem client?_lodge (page : Page) :
    (b.lodge commons fallback nesting page).client? commons.tenants.length =
      some { Client.spawn nesting b.options page ((b.resolve commons).transport.getD fallback)
        ((b.resolve commons).subscribers.getD []) with events := commons.events } := by
  rw [Commons.client?_eq_some_iff]
  refine ⟨b.tenant commons fallback nesting page, _, _,
    b.tenants_lodge commons fallback nesting page, ?_, ?_, rfl⟩
  next => exact Commons.getElem?_provide commons.transports b.transport fallback
  next => exact Commons.getElem?_provide commons.buses b.subscribers []

theorem spawnIn_cases (hasRuntime : Bool) :
    (∃ fault after, (faults b.options b.page hasRuntime).head? = some fault ∧
      b.spawnIn commons fallback nesting hasRuntime = (.error (.config fault), after) ∧
      commons.Spares after) ∨
    ∃ page, faults b.options b.page hasRuntime = [] ∧ b.page = some page ∧
      b.spawnIn commons fallback nesting hasRuntime =
        (.ok commons.tenants.length, b.lodge commons fallback nesting page) := by
  unfold spawnIn
  obtain ⟨refused, first⟩ | ⟨passed, ⟨absent, first⟩ | ⟨page, given, ⟨off, first⟩ | ⟨on, free⟩⟩⟩ :=
    faults_cases b.options b.page hasRuntime
  next => exact .inl ⟨.noPath, commons, first, by rw [refused], .refl commons⟩
  next => exact .inl ⟨.noPage, commons, first, by rw [passed, absent], .refl commons⟩
  next =>
    have spares := b.spares_furnish commons fallback
    exact .inl ⟨.notRunning, b.furnish commons fallback, first, by simp [passed, given, off], spares⟩
  next => exact .inr ⟨page, free, given, by simp [passed, given, on]⟩

theorem client?_spawnIn (hasRuntime : Bool) :
    (b.spawnIn commons fallback nesting hasRuntime).1.map
        (b.spawnIn commons fallback nesting hasRuntime).2.client? =
      ((b.resolve commons).spawn fallback nesting hasRuntime).map fun client =>
        some { client with events := commons.events } := by
  unfold spawnIn spawn
  obtain ⟨refused, _⟩ | ⟨passed, ⟨absent, _⟩ | ⟨page, given, ⟨off, _⟩ | ⟨on, _⟩⟩⟩ :=
    faults_cases b.options b.page hasRuntime
  next => simp [resolve, refused, bind, Except.bind, Except.map]
  next => simp [resolve, passed, absent, bind, Except.bind, Except.map]
  next => simp [resolve, passed, given, off, bind, Except.bind, Except.map]
  next =>
    have stands := b.client?_lodge commons fallback nesting page
    simp only [resolve] at stands
    simp [resolve, passed, given, on, bind, Except.bind, Except.map, stands]

end spawn

theorem spawned_as_last_said (commons : Commons τ)
    (calls : List (Call (Fin commons.transports.length) (Fin commons.buses.length)))
    (fallback : τ) (nesting : Nat) (hasRuntime : Bool) :
    let said := lastSaid calls
    let o := said.options
    let outcome := (calls.foldl apply {}).spawnIn commons fallback nesting hasRuntime
    outcome = (said.calls.foldl apply {}).spawnIn commons fallback nesting hasRuntime ∧
    (∀ e, outcome.1 = .error e ↔ (faults o said.page hasRuntime).head?.map Error.config = some e) ∧
    (∀ e, outcome.1 = .error e → ∀ acts, (commons.actAll acts).Spares (outcome.2.actAll acts)) ∧
    ∀ place, outcome.1 = .ok place → ∃ page tenant client, said.page = some page ∧
      outcome.2.tenants[place]? = some tenant ∧ outcome.2.client? place = some client ∧
      client = { Client.spawn nesting o page ((said.transport.map commons.transports.get).getD fallback)
        ((said.subscribers.map commons.buses.get).getD []) with events := commons.events } ∧
      client.config.url = Endpoint.url o page ∧
      (∀ transport, said.transport = some transport → tenant.own.transport = transport) ∧
      (∀ bus, said.subscribers = some bus → tenant.bus = bus) ∧
      ∀ f, (outcome.2.act place f).buses[tenant.bus]? = some (f client).subscribers := by
  intro said o outcome
  have made : calls.foldl apply {} = said.builder := foldl_apply calls
  have spawned : outcome = said.builder.spawnIn commons fallback nesting hasRuntime := by
    simp only [outcome, made]
  refine ⟨by rw [foldl_calls, spawned], ?_⟩
  rw [spawned]
  obtain ⟨fault, after, first, ended, spares⟩ | ⟨page, free, given, ended⟩ :=
    said.builder.spawnIn_cases commons fallback nesting hasRuntime
  next =>
    have told : (faults o said.page hasRuntime).head? = some fault := first
    rw [ended, told]
    refine ⟨by simp, fun _ _ acts => spares.actAll acts, ?_⟩
    intro place succeeded
    cases succeeded
  next =>
    have none : faults o said.page hasRuntime = [] := free
    have held := said.builder.tenants_lodge commons fallback nesting page
    have stands := said.builder.client?_lodge commons fallback nesting page
    rw [ended, none]
    refine ⟨by simp, by simp, ?_⟩
    intro place succeeded
    cases succeeded
    refine ⟨page, _, _, given, held, stands, rfl, rfl, ?_, ?_, Commons.buses_act held stands⟩
    next => exact fun _ chosen => Commons.provide_of_given _ chosen
    next => exact fun _ chosen => Commons.provide_of_given _ chosen

theorem spawned_as_last_said_despite_repeats :
    let shared : Subscriber := ⟨"shared", false, fun _ _ => []⟩
    let commons : Commons Unit := { transports := [(), ()], buses := [[], [shared]] }
    let calls : List (Call (Fin 2) (Fin 2)) :=
      [.path "/old", .page (.localhost 80), .subscribers 0, .options (.new "" "cdn"),
        .assetPrefix "", .path "/hmr", .transport 1, .page (.localhost 3000), .subscribers 1]
    let outcome := (calls.foldl apply {}).spawnIn commons () 4 true
    let refused := (calls.foldl apply {}).spawnIn commons () 4 false
    refused.1 = .error (.config .notRunning) ∧ commons.Spares refused.2 ∧ outcome.1 = .ok 0 ∧
      ∃ client, outcome.2.client? 0 = some client ∧ client.config.url = "ws://localhost:3000/hmr" ∧
        (outcome.2.act 0 (Client.register · shared)).buses[1]? = some [shared, shared] := by
  intro shared commons calls outcome refused
  obtain ⟨_, told, spares, _⟩ := spawned_as_last_said commons calls () 4 false
  have failed : refused.1 = .error (.config .notRunning) := (told _).mpr rfl
  obtain ⟨_, _, _, began⟩ := spawned_as_last_said commons calls () 4 true
  have spawned : outcome.1 = .ok 0 := rfl
  obtain ⟨page, tenant, client, given, _, stands, same, address, _, listens, acts⟩ := began 0 spawned
  obtain rfl : Page.localhost 3000 = page := Option.some.inj given
  have subscribers : client.subscribers = [shared] := congrArg Client.subscribers same
  have registered := acts (Client.register · shared)
  rw [listens 1 rfl, Client.register, subscribers] at registered
  exact ⟨failed, spares _ failed [], spawned, client, stands, address.trans (by decide +kernel),
    registered⟩

end HotReload.Builder
