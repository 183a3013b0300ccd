import HotReload.Json.Printer
import HotReload.Json.Typed

set_option autoImplicit false

namespace HotReload

open Json

inductive Envelope where
  | connected
  | message (data : Value)

namespace Envelope

-- A text frame is a message whose data is the whole text.
def ofFrame (text : String) : Except Json.Error Envelope := (Value.parse text).map .message

def isConnected : Envelope → Bool
  | .connected => true
  | .message _ => false

def data? : Envelope → Option Value
  | .connected => none
  | .message data => some data

def toJson : Envelope → String
  | .connected => (Value.object [("type", .string "connected")]).compact
  | .message data => (Value.object [("type", .string "message"), ("data", data)]).compact

inductive Tag where
  | connected
  | message

def Tag.ofName (name : String) : Except Cause Tag :=
  if name = "connected" then .ok .connected
  else if name = "message" then .ok .message
  else .error (.unknownVariant name ["connected", "message"])

def tagShape : Shape Tag where
  expected := .variantName
  accept
    | .string s => Tag.ofName s
    | v => refuse .variantName v

-- Everything beside the tag, kept until the tag is known.
inductive Content where
  | items (values : List Value)
  -- In the order of the text, repetitions included.
  | members (values : List (String × Value))

structure Tagged where
  tag : Tag
  content : Content

def readMember (bound : Nat) (state : Option Tag × List (String × Value)) (key : String)
    (cs : Input) : Except Failure (Scanned (Option Tag × List (String × Value))) :=
  if key = "type" then
    if state.1.isSome then failAt (.duplicateField "type") (pastBracket '\x7d' cs)
    else do
      let cs ← scanColon cs
      let (tag, cs) ← readAs tagShape cs
      .ok ((some tag, state.2), cs)
  else do
    let cs ← scanColon cs
    let (value, cs) ← readValue bound (maxDepth - 1) cs
    .ok ((state.1, (key, value) :: state.2), cs)

def readObject (bound : Nat) (cs : Input) : Except Failure (Scanned Tagged) := do
  let ((tag, members), cs) ← walkObject (readMember bound) bound true (none, []) cs
  let cs ← closeObject cs
  match tag with
  | some tag => .ok (⟨tag, .members members.reverse⟩, cs)
  | none => failAt (.missingField "type") cs

def readList (bound : Nat) (cs : Input) : Except Failure (Scanned Tagged) := do
  let (tag, cs) ← readItem? true (readAs tagShape) cs
  match tag with
  | none => failAt (.missingField "type") (pastBracket ']' cs)
  | some tag => do
    let (values, cs) ← walkList
      (fun values cs =>
        (readValue bound (maxDepth - 1) cs).map fun (v, cs) => (v :: values, cs))
      bound false [] cs
    let cs ← closeList cs
    .ok (⟨tag, .items values.reverse⟩, cs)

def readTagged (bound : Nat) (cs : Input) : Except Failure (Scanned Tagged) :=
  match skipBlank cs with
  | '[' :: rest => readList bound rest
  | '\x7b' :: rest => readObject bound rest
  | cs => refuseText (.taggedChoice "Envelope") cs

def dataMember (members : List (String × Value)) : Except Cause Value :=
  match members.filter fun member => member.1 = "data" with
  | [] => .error (.missingField "data")
  | [(_, value)] => .ok value
  | _ => .error (.duplicateField "data")

def dataItem : List Value → Except Cause Value
  | [] => .error (.wrongLength 0 (.variantOf "Envelope::Message" 1))
  | [value] => .ok value
  | values => .error (.wrongLength values.length (.items 1))

def Tagged.toEnvelope (t : Tagged) : Except Cause Envelope :=
  match t.tag, t.content with
  | .connected, .members _ => .ok .connected
  | .connected, .items values =>
    if values.isEmpty then .ok .connected else .error (.wrongLength values.length (.items 0))
  | .message, .members members => (dataMember members).map .message
  | .message, .items values => (dataItem values).map .message

def parse (text : String) : Except Json.Error Envelope :=
  match readDocument readTagged text with
  | .error e => .error e
  | .ok tagged =>
    match tagged.toEnvelope with
    | .ok envelope => .ok envelope
    | .error cause => .error ⟨cause, none⟩

end Envelope

end HotReload
