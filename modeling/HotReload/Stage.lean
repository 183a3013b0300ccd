import HotReload.Transport

set_option autoImplicit false

namespace HotReload

structure Script where
  ready : ReadyState := .connecting
  afterClose : ReadyState := .closed
  reports : List Report := []
  panics : Bool := false

structure StagedSocket where
  generation : Nat
  ready : ReadyState
  afterClose : ReadyState

structure Stage where
  -- For the sockets that are still to be opened; those beyond behave in the default way.
  scripts : List Script := []
  -- In the order in which they were opened.
  sockets : List StagedSocket := []

namespace Stage

def mapSocket (stage : Stage) (generation : Nat) (f : StagedSocket → StagedSocket) : Stage :=
  { stage with
    sockets := stage.sockets.map fun socket =>
      if socket.generation = generation then f socket else socket }

def openSocket (stage : Stage) (generation : Nat) : Opening Stage :=
  let script := stage.scripts.head?.getD {}
  let stage := { stage with scripts := stage.scripts.tail }
  if script.panics then .panicked stage
  else
    .opened
      { stage with
        sockets := stage.sockets ++ [⟨generation, script.ready, script.afterClose⟩] }
      script.reports

def closeSocket (stage : Stage) (generation : Nat) : Stage :=
  stage.mapSocket generation fun socket => { socket with ready := socket.afterClose }

def ready (stage : Stage) (generation : Nat) : ReadyState :=
  match stage.sockets.find? fun socket => socket.generation = generation with
  | some socket => socket.ready
  | none => .closed

def setReady (stage : Stage) (generation : Nat) (state : ReadyState) : Stage :=
  stage.mapSocket generation fun socket => { socket with ready := state }

instance : Transport Stage where
  openSocket stage generation _ := stage.openSocket generation
  closeSocket := closeSocket
  sendText stage _ _ := stage
  ready := ready

end Stage

end HotReload
