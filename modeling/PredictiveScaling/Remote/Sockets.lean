import PredictiveScaling.Arena
import PredictiveScaling.KeyMap
import PredictiveScaling.Fault
import PredictiveScaling.Remote.Endpoint

/-!
# Completion sockets

Where a training is in progress somebody waits for its report on a socket. On a path only
one listener of this process may wait at a time: it claims the path first, then removes
what an earlier process may have left there, and then listens, if the system lets it.
Whatever way it ends, it removes the socket from the path and gives up the claim. On a TCP
address the system sees to it that there is only one.
-/
namespace PredictiveScaling

/-- What a path of the file system holds. -/
inductive PathEntry where
  | file
  /-- A socket on which nobody listens any more. -/
  | deadSocket
  /-- What cannot be removed, such as a directory, and what the system says to that. -/
  | fixed (cause : TransportFault)
  /-- The socket of a listener. -/
  | socket (listener : Nat)
deriving DecidableEq, Repr

/-- How far a listener has come. -/
inductive ListenerPhase where
  | claimed
  | cleared
  | waiting
  | released
deriving DecidableEq, Repr

structure Listener where
  endpoint : Endpoint
  phase : ListenerPhase
deriving DecidableEq, Repr

/-- The sockets of the process. -/
structure Sockets where
  /-- Who claims a path. -/
  claims : KeyMap SocketPath Nat
  /-- What paths hold. -/
  entries : KeyMap SocketPath PathEntry
  /-- Who listens on a TCP address. -/
  bound : KeyMap String Nat
  listeners : Arena Listener
  /-- What the system answers to a listener, by its number, if it does not let it listen. -/
  refusal? : Nat → Option TransportFault

namespace Sockets

/-- No sockets, and a system that refuses nothing. -/
def empty : Sockets :=
  { claims := .empty, entries := .empty, bound := .empty, listeners := .empty
    refusal? := fun _ => none }

instance : Inhabited Sockets := ⟨empty⟩

def setPhase (s : Sockets) (id : Nat) (phase : ListenerPhase) : Sockets :=
  { s with listeners := s.listeners.modify id fun l => { l with phase } }

/-- A new listener that claims its path. -/
def claim (s : Sockets) (path : String) : Except TransportFault (Nat × Sockets) :=
  if s.claims.contains (.ofText path) then .error (.awaitingReport path)
  else
    let id := s.listeners.size
    .ok (id, { s with
      claims := s.claims.insert (.ofText path) id
      listeners := s.listeners.push ⟨.path path, .claimed⟩ })

/-- Remove what a path holds, if it can be removed. -/
def unlink (s : Sockets) (path : SocketPath) : Sockets :=
  match s.entries.find? path with
  | some (.fixed _) => s
  | _ => { s with entries := s.entries.erase path }

/-- Give up what a listener holds. -/
def release (s : Sockets) (id : Nat) : Sockets :=
  match s.listeners.get? id with
  | none => s
  | some l =>
    if l.phase = .released then s
    else
      match l.endpoint.site with
      | .tcp address => ({ s with bound := s.bound.erase address }).setPhase id .released
      | .path path =>
        let s := s.unlink path
        ({ s with claims := s.claims.erase path }).setPhase id .released

/-- Remove what stands in the way of a listener that has claimed its path. -/
def clear (s : Sockets) (id : Nat) : Except TransportFault Unit × Sockets :=
  match s.listeners.get? id with
  | some ⟨.path path, .claimed⟩ =>
    match s.entries.find? (.ofText path) with
    | some (.fixed cause) => (.error cause, s.release id)
    | _ => (.ok (), (s.unlink (.ofText path)).setPhase id .cleared)
  | _ => (.ok (), s)

/-- Start to listen on a path that was cleared. -/
def listen (s : Sockets) (id : Nat) : Except TransportFault Unit × Sockets :=
  match s.listeners.get? id with
  | some ⟨.path path, .cleared⟩ =>
    if s.entries.contains (.ofText path) then (.error (.system "address in use"), s.release id)
    else
      match s.refusal? id with
      | some cause => (.error cause, s.release id)
      | none =>
        (.ok (), ({ s with
          entries := s.entries.insert (.ofText path) (.socket id) }).setPhase id .waiting)
  | _ => (.ok (), s)

/-- All steps up to listening. -/
def bindPath (s : Sockets) (path : String) : Except TransportFault Nat × Sockets :=
  match s.claim path with
  | .error e => (.error e, s)
  | .ok (id, s) =>
    match s.clear id with
    | (.error e, s) => (.error e, s)
    | (.ok (), s) =>
      match s.listen id with
      | (.error e, s) => (.error e, s)
      | (.ok (), s) => (.ok id, s)

/-- Listen on an endpoint. -/
def bind (s : Sockets) (e : Endpoint) : Except TransportFault Nat × Sockets :=
  match e with
  | .path path => s.bindPath path
  | .tcp address =>
    if s.bound.contains address then (.error (.system "address in use"), s)
    else
      let id := s.listeners.size
      match s.refusal? id with
      | some cause =>
        (.error cause, { s with listeners := s.listeners.push ⟨.tcp address, .released⟩ })
      | none =>
        (.ok id, { s with
          bound := s.bound.insert address id
          listeners := s.listeners.push ⟨.tcp address, .waiting⟩ })

/-- Who gets a connection to a site. -/
def listenerAt? (s : Sockets) : Site → Option Nat
  | .tcp address => s.bound.find? address
  | .path path =>
    match s.entries.find? path with
    | some (.socket id) => some id
    | _ => none

def listener? (s : Sockets) (e : Endpoint) : Option Nat := s.listenerAt? e.site

end Sockets

end PredictiveScaling
