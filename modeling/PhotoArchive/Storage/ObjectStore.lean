import PhotoArchive.Storage.Source

/-!
# Object stores

An object store is reached through clients. A client is entered before it is used and exited at the
end; it can ask for a bucket and for the objects in it. The body of an object is read piece by piece.

## Main definitions

- `ObjectStore` — the operations of an object store
- `ScriptedStore` — an object store that follows a script and remembers what was asked of it
-/

namespace PhotoArchive

/-- The number of a client. -/
abbrev ClientId := Nat

/-- The number of the body of an object. -/
abbrev BodyId := Nat

/-- The body of an object, and its length as the store tells it. -/
structure ObjectBody where
  body : BodyId
  length : Option Int
  deriving DecidableEq, Repr

/-- The operations of an object store whose state is of type `χ`. -/
structure ObjectStore (χ : Type) where
  /-- Enter a client for an endpoint. -/
  enter : String → Action χ ClientId
  exit : ClientId → χ → χ
  headBucket : ClientId → String → Action χ Unit
  /-- An object of a bucket. -/
  getObject : ClientId → String → String → Action χ ObjectBody
  /-- The next piece of a body, given how many bytes are asked for. -/
  readBody : BodyId → Nat → Action χ Bytes
  closeBody : BodyId → Action χ Unit
  /-- A bound on what a body may still deliver. -/
  pending : BodyId → χ → Nat
  pending_readBody : ∀ body room x data x', (readBody body room).run x = (.ok data, x') →
    data ≠ [] → pending body x' < pending body x

/-! ## Scripted stores -/

namespace ScriptedStore

/-- An object in a script. -/
structure Object where
  delivery : Delivery
  /-- The length that the store tells. -/
  length : Option Int
  getFault : Option Failure := none
  closeFault : Option Failure := none
  deriving DecidableEq

/-- What a store does. -/
structure Script where
  objects : List (String × Object)
  enterFault : Option Failure := none
  headFault : Option Failure := none
  deriving DecidableEq

/-- What was asked of a store. -/
inductive Event where
  | client (endpoint : String)
  | headBucket (bucket : String)
  | getObject (bucket key : String)
  | closeBody (key : String)
  | exit
  deriving DecidableEq, Repr

/-- An event in words. -/
def Event.text : Event → String
  | client endpoint => "client s3 " ++ endpoint
  | headBucket bucket => "head " ++ bucket
  | getObject bucket key => "get " ++ bucket ++ " " ++ key
  | closeBody key => "body close " ++ key
  | exit => "client exit"

/-- A body: its object, and what is left of it. -/
structure Body where
  key : String
  object : Object
  left : Delivery := object.delivery
  deriving DecidableEq

end ScriptedStore

open ScriptedStore in
/-- The state of a store that follows a script. -/
structure ScriptedStore where
  script : Script
  clients : Nat := 0
  bodies : List Body := []
  events : List Event := []
  deriving DecidableEq

namespace ScriptedStore

/-- Remember an event. -/
def record (s : ScriptedStore) (event : Event) : ScriptedStore :=
  { s with events := s.events ++ [event] }

/-- Enter a client. -/
def enter (endpoint : String) : Action ScriptedStore ClientId := fun s =>
  let s := s.record (.client endpoint)
  match s.script.enterFault with
  | some failure => (.error failure, s)
  | none => (.ok s.clients, { s with clients := s.clients + 1 })

/-- Exit a client. -/
def exit (_ : ClientId) (s : ScriptedStore) : ScriptedStore := s.record .exit

/-- Ask for a bucket. -/
def headBucket (_ : ClientId) (bucket : String) : Action ScriptedStore Unit := fun s =>
  let s := s.record (.headBucket bucket)
  match s.script.headFault with
  | some failure => (.error failure, s)
  | none => (.ok (), s)

/-- Ask for an object. One that is not there is answered with an error of the service. -/
def getObject (_ : ClientId) (bucket key : String) : Action ScriptedStore ObjectBody := fun s =>
  let s := s.record (.getObject bucket key)
  match s.script.objects.find? fun object => object.1 = key with
  | none => (.error (.service .noSuchKey), s)
  | some (_, object) =>
    match object.getFault with
    | some failure => (.error failure, s)
    | none =>
      (.ok { body := s.bodies.length, length := object.length },
        { s with bodies := s.bodies ++ [{ key, object }] })

/-- Deliver the next piece of a body: as long as the script says, or else as long as asked for. -/
def readBody (id : BodyId) (room : Nat) : Action ScriptedStore Bytes := fun s =>
  match s.bodies[id]? with
  | none => (.ok [], s)
  | some b =>
    match b.left.next (b.left.piece.getD room) with
    | .error failure => (.error failure, s)
    | .ok (data, left) => (.ok data, { s with bodies := s.bodies.set id { b with left } })

/-- Close a body. -/
def closeBody (id : BodyId) : Action ScriptedStore Unit := fun s =>
  match s.bodies[id]? with
  | none => (.ok (), s)
  | some b =>
    let s := s.record (.closeBody b.key)
    match b.object.closeFault with
    | some failure => (.error failure, s)
    | none => (.ok (), s)

/-- How much of its object a body has not delivered. -/
def pending (id : BodyId) (s : ScriptedStore) : Nat :=
  match s.bodies[id]? with
  | none => 0
  | some b => b.left.rest.length

theorem pending_readBody (id : BodyId) (room : Nat) (s : ScriptedStore) (data : Bytes)
    (s' : ScriptedStore) (h : (readBody id room).run s = (.ok data, s')) (hne : data ≠ []) :
    pending id s' < pending id s := by
  simp only [Action.run, readBody] at h
  cases hb : s.bodies[id]? with
  | none =>
    rw [hb] at h
    cases h
    exact absurd rfl hne
  | some b =>
    rw [hb] at h
    simp only at h
    cases hn : b.left.next (b.left.piece.getD room) with
    | error failure =>
      rw [hn] at h
      cases h
    | ok piece =>
      rw [hn] at h
      cases h
      have hlt := Delivery.rest_lt hn hne
      have hid : id < s.bodies.length := (List.getElem?_eq_some_iff.1 hb).1
      simp only [pending, hb, List.getElem?_set_self hid]
      exact hlt

/-- The object store that follows a script. -/
def store : ObjectStore ScriptedStore where
  enter := enter
  exit := exit
  headBucket := headBucket
  getObject := getObject
  readBody := readBody
  closeBody := closeBody
  pending := pending
  pending_readBody := pending_readBody

end ScriptedStore

end PhotoArchive
