import Arisa.Proto
import Arisa.Semantics.Tasks

/-!
# Connections of the Python client

The parts of `client.py` that share `_closed`, `_channel` and `_stub`:
`connect`, `close`, `_disconnect`, `run`, `_run_once` and `_get_stub`. A task is
a coroutine at one of its suspension points; between two of them it runs alone.
What grpclib answers a subscription is a parameter.
-/

namespace Arisa.Client

open Arisa.Proto Arisa.Semantics

/-- The exceptions `run` tells apart. Everything its `except` clause does not
name, a cancellation included, is `other`. -/
inductive Failure where
  | grpcError (status : Nat)
  | streamTerminatedError
  | osError
  | other
deriving DecidableEq

/-- `Status.UNAVAILABLE`. -/
def unavailable : Nat := 14

/-- `isinstance(error, (GRPCError, StreamTerminatedError, OSError))`. -/
def Failure.isCaught : Failure → Bool
  | .other => false
  | _ => true

/-- `_is_reconnectable`. -/
def Failure.isReconnectable : Failure → Bool
  | .grpcError status => status == unavailable
  | _ => true

/-- The fields of `BotClient` that connections use, and every `Channel` object:
they are numbered in the order of their creation. -/
structure BotClient where
  reconnect : Bool
  closed : Bool
  channel : Option Nat
  stub : Option Nat
  created : Nat
  /-- The channels on which `close` was called. -/
  shut : List Nat

/-- Who awaits `connect`: a direct call, an API call or `run`, the last two
through `_get_stub`. -/
inductive Caller where
  | connect
  | call
  | run
deriving DecidableEq

/-- A slot without a coroutine, or a coroutine at a suspension point. -/
inductive Task where
  | idle
  /-- In the health check of a new channel. -/
  | connecting (caller : Caller) (channel : Nat)
  | calling (stub : Nat)
  /-- `run`, waiting for the next event of its stream. -/
  | streaming (stub : Nat)
  /-- `run`, in `dispatch`. -/
  | dispatching (stub : Nat)
  /-- `run`, in `asyncio.sleep(1)`. -/
  | sleeping
deriving DecidableEq

/-- What a subscription returns when it is asked for its next event. -/
inductive Answer where
  | item (event : Event)
  | ended
  | failed (failure : Failure)

/-- What grpclib may answer, by whether the channel of the stream is shut. -/
abbrev Transport := (shut : Bool) → Answer → Prop

inductive Label where
  | started (caller : Caller)
  /-- A health check succeeded, with `previous` in `_channel` at that time. -/
  | published (previous : Option Nat)
  | dispatched (event : EventValue)
  | closed
  | moved
deriving DecidableEq

namespace BotClient

/-- `BotClient.__init__`. -/
def init (reconnect : Bool) : BotClient := ⟨reconnect, false, none, none, 0, []⟩

/-- `channel.close()`. -/
def shutChannel (client : BotClient) (channel : Nat) : BotClient :=
  { client with shut := channel :: client.shut }

/-- The channel was created and `close` was never called on it. -/
def IsOpen (client : BotClient) (channel : Nat) : Prop :=
  channel < client.created ∧ channel ∉ client.shut

/-- `_disconnect`. -/
def disconnect (client : BotClient) : BotClient :=
  match client.channel with
  | some channel => { client.shutChannel channel with channel := none, stub := none }
  | none => { client with channel := none, stub := none }

def close (client : BotClient) : BotClient :=
  { client with closed := true }.disconnect

/-- What a caller does once its `connect` has returned; `_get_stub` asserts a stub. -/
def proceed : Caller → Option Nat → Task
  | .connect, _ => .idle
  | .call, some stub => .calling stub
  | .run, some stub => .streaming stub
  | .call, none | .run, none => .idle

/-- `connect` up to the health check, or to its end if there is a channel. -/
def connect (client : BotClient) (caller : Caller) : BotClient × Task :=
  match client.channel with
  | some _ => (client, proceed caller client.stub)
  | none =>
      ({ client with closed := false, created := client.created + 1 },
        .connecting caller client.created)

/-- The end of `connect` after a successful health check. -/
def publish (client : BotClient) (channel : Nat) : BotClient :=
  { client with channel := some channel, stub := some channel }

/-- One test of `while not self._closed`. -/
def iterate (client : BotClient) : BotClient × Task :=
  if client.closed then (client, .idle) else client.connect .run

def run (client : BotClient) : BotClient × Task :=
  { client with closed := false }.iterate

/-- `run` after `_run_once` has raised or, for `none`, has returned. -/
def afterOnce (client : BotClient) : Option Failure → BotClient × Task
  | some failure =>
      if !failure.isCaught then (client, .idle)
      else if client.closed then (client, .idle)
      else if !client.reconnect || !failure.isReconnectable then (client, .idle)
      else (client.disconnect, .sleeping)
  | none =>
      if !client.reconnect || client.closed then (client, .idle)
      else (client.disconnect, .sleeping)

/-- A coroutine up to its first suspension point. -/
def start (client : BotClient) : Caller → BotClient × Task
  | .connect => client.connect .connect
  | .call => client.connect .call
  | .run => client.run

/-- A health check failed or was cancelled: `connect` shuts its channel and raises. -/
def refuse (client : BotClient) (caller : Caller) (channel : Nat) (failure : Failure) :
    BotClient × Task :=
  match caller with
  | .connect | .call => (client.shutChannel channel, .idle)
  | .run => (client.shutChannel channel).afterOnce (some failure)

/-- `async for event in stream`, with the `ValueError` of `_unwrap_event`. -/
def receive (client : BotClient) (stub : Nat) : Answer → Label × BotClient × Task
  | .item event =>
      match event.value with
      | some value => (.dispatched value, client, .dispatching stub)
      | none => (.moved, client.afterOnce (some .other))
  | .ended => (.moved, client.afterOnce none)
  | .failed failure => (.moved, client.afterOnce (some failure))

end BotClient

open BotClient

/-- One coroutine from a suspension point to the next. -/
inductive Turn (transport : Transport) : BotClient → Task → Label → BotClient → Task → Prop where
  | started (client : BotClient) (caller : Caller) :
      Turn transport client .idle (.started caller) (client.start caller).1 (client.start caller).2
  | published (client : BotClient) (caller : Caller) (channel : Nat) :
      Turn transport client (.connecting caller channel) (.published client.channel)
        (client.publish channel) (proceed caller (some channel))
  | refused (client : BotClient) (caller : Caller) (channel : Nat) (failure : Failure) :
      Turn transport client (.connecting caller channel) .moved
        (client.refuse caller channel failure).1 (client.refuse caller channel failure).2
  | received (client : BotClient) (stub : Nat) (answer : Answer)
      (answered : transport (client.shut.contains stub) answer) :
      Turn transport client (.streaming stub) (client.receive stub answer).1
        (client.receive stub answer).2.1 (client.receive stub answer).2.2
  | handled (client : BotClient) (stub : Nat) :
      Turn transport client (.dispatching stub) .moved client (.streaming stub)
  /-- A middleware or a filter raised. -/
  | raised (client : BotClient) (stub : Nat) (failure : Failure) :
      Turn transport client (.dispatching stub) .moved
        (client.afterOnce (some failure)).1 (client.afterOnce (some failure)).2
  | woken (client : BotClient) :
      Turn transport client .sleeping .moved client.iterate.1 client.iterate.2
  /-- An API call returned or raised, or `run` was cancelled outside of `connect`. -/
  | ended (client : BotClient) (task : Task)
      (elsewhere : ∀ caller channel, task ≠ .connecting caller channel) :
      Turn transport client task .moved client .idle
  | closed (client : BotClient) : Turn transport client .idle .closed client.close .idle

/-- One client from its construction on, with any number of coroutines. -/
def client (transport : Transport) (reconnect : Bool) :
    System (Tasks BotClient Task) (Nat × Label) :=
  Tasks.system (fun client => client = .init reconnect) .idle (Turn transport)

/-- The client before anything is called. -/
theorem client_start (transport : Transport) (reconnect : Bool) :
    (client transport reconnect).Runs [] ⟨.init reconnect, fun _ => .idle⟩ :=
  Tasks.start rfl

end Arisa.Client
