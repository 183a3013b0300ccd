import HotReload.Error
import HotReload.Json.Printer
import HotReload.Json.Skip
import HotReload.Json.Typed

set_option autoImplicit false

namespace HotReload

open Json

structure Duration where
  nanoseconds : Nat
  deriving DecidableEq

namespace Duration

def ofMilliseconds (n : Nat) : Duration := ⟨n * 1000000⟩

def milliseconds (d : Duration) : Nat := d.nanoseconds / 1000000

def seconds (d : Duration) : Nat := d.nanoseconds / 1000000000

def ofParts (seconds nanoseconds : Nat) : Duration := ⟨seconds * 1000000000 + nanoseconds⟩

end Duration

structure Options where
  -- Appended to the address as it is.
  path : String
  assetPrefix : String
  -- The delay before a reconnect; zero means the default.
  timeout : Duration
  log : Bool
  deriving DecidableEq

namespace Options

def defaultTimeout : Duration := .ofMilliseconds 5000

def new (path assetPrefix : String) : Options := ⟨path, assetPrefix, defaultTimeout, false⟩

def default : Options := new "" ""

def reconnectDelay (o : Options) : Duration :=
  if o.timeout.nanoseconds = 0 then defaultTimeout else o.timeout

def validate (o : Options) : Except Error Unit :=
  if o.path.isEmpty then .error (.config .noPath) else .ok ()

-- What is written for the timeout: whole milliseconds, as many as 64 bits hold.
def writtenTimeout (o : Options) : Nat := min o.timeout.milliseconds (UInt64.size - 1)

def toJson (o : Options) : String :=
  (Value.object
    [("path", .string o.path), ("assetPrefix", .string o.assetPrefix),
      ("timeout", .ofNat o.writtenTimeout), ("log", .bool o.log)]).compact

structure Draft where
  path : Option String := none
  assetPrefix : Option String := none
  timeout : Option Nat := none
  log : Option Bool := none

def Draft.complete (d : Draft) (path : String) : Options :=
  { path
    assetPrefix := d.assetPrefix.getD ""
    timeout := (d.timeout.map Duration.ofMilliseconds).getD defaultTimeout
    log := d.log.getD false }

def readOnce {α : Type} (name : String) (seen : Option α)
    (read : Input → Except Failure (Scanned α)) (cs : Input) : Except Failure (Scanned α) :=
  if seen.isSome then failAt (.duplicateField name) (pastBracket '\x7d' cs)
  else do
    let cs ← scanColon cs
    read cs

def readMember (bound : Nat) (d : Draft) (key : String) (cs : Input) :
    Except Failure (Scanned Draft) :=
  if key = "path" then
    (readOnce key d.path (readAs textShape) cs).map fun (x, cs) => ({ d with path := some x }, cs)
  else if key = "assetPrefix" then
    (readOnce key d.assetPrefix (readAs textShape) cs).map
      fun (x, cs) => ({ d with assetPrefix := some x }, cs)
  else if key = "timeout" then
    (readOnce key d.timeout (readAs unsigned64Shape) cs).map
      fun (x, cs) => ({ d with timeout := some x }, cs)
  else if key = "log" then
    (readOnce key d.log (readAs boolShape) cs).map fun (x, cs) => ({ d with log := some x }, cs)
  else do
    let cs ← scanColon cs
    let cs ← skipValue bound cs
    .ok (d, cs)

def readObject (bound : Nat) (cs : Input) : Except Failure (Scanned Options) := do
  let (draft, cs) ← walkObject (readMember bound) bound true {} cs
  let cs ← closeObject cs
  match draft.path with
  | some path => .ok (draft.complete path, cs)
  | none => failAt (.missingField "path") cs

-- The fields in their order; all but the first may be missing from the end.
def readList (cs : Input) : Except Failure (Scanned Options) := do
  let (path, cs) ← readItem? true (readAs textShape) cs
  match path with
  | none => failAt (.wrongLength 0 (.recordOf "Options" 4)) (pastBracket ']' cs)
  | some path => do
    let (assetPrefix, cs) ← readItem? false (readAs textShape) cs
    let (timeout, cs) ← readItem? false (readAs unsigned64Shape) cs
    let (log, cs) ← readItem? false (readAs boolShape) cs
    let cs ← closeList cs
    .ok (Draft.complete ⟨none, assetPrefix, timeout, log⟩ path, cs)

def read (bound : Nat) (cs : Input) : Except Failure (Scanned Options) :=
  match skipBlank cs with
  | '[' :: rest => readList rest
  | '\x7b' :: rest => readObject bound rest
  | cs => refuseText (.record "Options") cs

def parse (text : String) : Except Json.Error Options := readDocument read text

end Options

end HotReload
