import Mathlib.Logic.Function.Basic
import NodeBridge.Reasoning.Runs
import NodeBridge.Reasoning.FixedBuffer

/-!
# The TCP server

The threads of `tcp_server.c` around the kernel's descriptor table.  Critical sections under
`client_mutex` are single actions; everything else that can be interleaved is an action of its own:
`accept` and the registration, the registration and `pthread_create`, the removal by a handler and
its `close`.  Connections are numbered in the order they are accepted, descriptor numbers are
chosen by the kernel among those not open, and other threads open and close descriptors too.
-/

open Reasoning

namespace NodeBridge

def maxClients : Nat := 10

/-- What an open descriptor stands for. -/
inductive Descriptor where
  | connection (c : Nat) -- the `c`-th accepted connection
  | other
deriving DecidableEq

inductive HandlerPc where
  | receiving -- in the `recv` loop, its removal still to come
  | closing -- removal done, `close` still to come
deriving DecidableEq

structure Handler where
  fd : Nat
  pc : HandlerPc
deriving DecidableEq

-- Where `tcp_server_thread` stands in its loop.
inductive ServerPc where
  | accepting
  | accepted (fd c : Nat)
  | registered (fd c : Nat) -- `pthread_create` comes next
  | refused (fd c : Nat) -- `close` comes next
deriving DecidableEq

-- History, for the statements only.
inductive ServerEvent where
  | registered (c : Nat)
  | refused (c : Nat)
  | removed (c : Nat)
  | sent (data : List UInt8)
deriving DecidableEq

structure TcpServer where
  clientFds : FixedBuffer Nat maxClients -- `client_fds` and `client_count`
  thread : ServerPc
  handlers : Nat → Option Handler -- the `client_handler` thread of each connection
  fds : Nat → Option Descriptor
  conns : Nat
  received : Nat → List UInt8 -- what `send` took for each connection
  log : List ServerEvent

/-- What one `send` on a connection does: it takes some bytes, returns -1, or raises a signal that
    ends the process. -/
inductive SendResult where
  | taken (n : Nat)
  | failed
  | killed
deriving DecidableEq

namespace TcpServer

def initial (isOpen : Nat → Bool) : TcpServer where
  clientFds := .fresh (Vector.replicate maxClients 0)
  thread := .accepting
  handlers := fun _ => none
  fds := fun fd => if isOpen fd then some .other else none
  conns := 0
  received := fun _ => []
  log := []

-- `client_fds[0..client_count)`
def registered (s : TcpServer) : List Nat := s.clientFds.contents

end TcpServer

-- The loop of `client_handler` over `client_fds`: the first match is overwritten by the last entry.
def removeClient (clientFds : FixedBuffer Nat maxClients) (fd : Nat) : FixedBuffer Nat maxClients :=
  if h : fd ∈ clientFds.contents then
    clientFds.swapRemove (clientFds.contents.idxOf fd) (by
      rw [← FixedBuffer.length_contents]
      exact List.idxOf_lt_length_of_mem h)
  else clientFds

-- `send(client_fds[i], data, size, 0)`; on anything but a connection of ours nothing is recorded.
def sendTo (data : List UInt8) (results : Nat → SendResult) (s : TcpServer) (fd : Nat) :
    Option TcpServer :=
  match s.fds fd with
  | some (.connection c) =>
      match results c with
      | .taken n => some { s with
          received := Function.update s.received c (s.received c ++ data.take n) }
      | .failed => some s
      | .killed => none
  | _ => some s

def tcpServerSend (s : TcpServer) (data : List UInt8) (results : Nat → SendResult) :
    Option TcpServer :=
  s.registered.foldlM (sendTo data results) { s with log := s.log ++ [.sent data] }

inductive ServerAction where
  | accept (fd : Nat)
  | register
  | createHandler (created : Bool)
  | closeRefused
  | removeClient (c : Nat)
  | closeClient (c : Nat)
  | send (data : List UInt8) (results : Nat → SendResult)
  | openOther (fd : Nat)
  | closeOther (fd : Nat)

/-- One action of the server; `none` when the thread concerned is not there. -/
def serverStep (s : TcpServer) : ServerAction → Option TcpServer
  | .accept fd =>
      if s.thread = .accepting ∧ s.fds fd = none then
        some { s with
          thread := .accepted fd s.conns
          fds := Function.update s.fds fd (some (.connection s.conns))
          conns := s.conns + 1 }
      else none
  | .register =>
      match s.thread with
      | .accepted fd c =>
          if h : s.clientFds.len < maxClients then
            some { s with
              clientFds := s.clientFds.push fd h
              thread := .registered fd c
              log := s.log ++ [.registered c] }
          else some { s with thread := .refused fd c, log := s.log ++ [.refused c] }
      | _ => none
  | .createHandler created =>
      match s.thread with
      | .registered fd c =>
          -- the result of `pthread_create` is not looked at
          some { s with
            thread := .accepting
            handlers := if created then Function.update s.handlers c (some ⟨fd, .receiving⟩)
              else s.handlers }
      | _ => none
  | .closeRefused =>
      match s.thread with
      | .refused fd _ =>
          some { s with thread := .accepting, fds := Function.update s.fds fd none }
      | _ => none
  | .removeClient c =>
      match s.handlers c with
      | some ⟨fd, .receiving⟩ =>
          some { s with
            clientFds := NodeBridge.removeClient s.clientFds fd
            handlers := Function.update s.handlers c (some ⟨fd, .closing⟩)
            log := s.log ++ [.removed c] }
      | _ => none
  | .closeClient c =>
      match s.handlers c with
      | some ⟨fd, .closing⟩ =>
          some { s with
            handlers := Function.update s.handlers c none
            fds := Function.update s.fds fd none }
      | _ => none
  | .send data results => tcpServerSend s data results
  | .openOther fd =>
      if s.fds fd = none then some { s with fds := Function.update s.fds fd (some .other) }
      else none
  | .closeOther fd =>
      if s.fds fd = some .other then some { s with fds := Function.update s.fds fd none } else none

/-! ## What one action can do -/

/-- The steps of `serverStep` with their guards, for case analysis. -/
inductive ServerStep (s : TcpServer) : ServerAction → TcpServer → Prop where
  | accept {fd : Nat} (hpc : s.thread = .accepting) (hfree : s.fds fd = none) :
      ServerStep s (.accept fd) { s with
        thread := .accepted fd s.conns
        fds := Function.update s.fds fd (some (.connection s.conns))
        conns := s.conns + 1 }
  | register {fd c : Nat} (hpc : s.thread = .accepted fd c) (h : s.clientFds.len < maxClients) :
      ServerStep s .register { s with
        clientFds := s.clientFds.push fd h
        thread := .registered fd c
        log := s.log ++ [.registered c] }
  | refuse {fd c : Nat} (hpc : s.thread = .accepted fd c) (h : ¬ s.clientFds.len < maxClients) :
      ServerStep s .register { s with
        thread := .refused fd c
        log := s.log ++ [.refused c] }
  | create {fd c : Nat} (hpc : s.thread = .registered fd c) :
      ServerStep s (.createHandler true) { s with
        thread := .accepting
        handlers := Function.update s.handlers c (some ⟨fd, .receiving⟩) }
  | createFails {fd c : Nat} (hpc : s.thread = .registered fd c) :
      ServerStep s (.createHandler false) { s with thread := .accepting }
  | closeRefused {fd c : Nat} (hpc : s.thread = .refused fd c) :
      ServerStep s .closeRefused { s with
        thread := .accepting
        fds := Function.update s.fds fd none }
  | remove {fd c : Nat} (hh : s.handlers c = some ⟨fd, .receiving⟩) :
      ServerStep s (.removeClient c) { s with
        clientFds := removeClient s.clientFds fd
        handlers := Function.update s.handlers c (some ⟨fd, .closing⟩)
        log := s.log ++ [.removed c] }
  | close {fd c : Nat} (hh : s.handlers c = some ⟨fd, .closing⟩) :
      ServerStep s (.closeClient c) { s with
        handlers := Function.update s.handlers c none
        fds := Function.update s.fds fd none }
  | send {data : List UInt8} {results : Nat → SendResult} (received : Nat → List UInt8)
      (h : tcpServerSend s data results =
        some { s with received := received, log := s.log ++ [.sent data] }) :
      ServerStep s (.send data results)
        { s with received := received, log := s.log ++ [.sent data] }
  | openOther {fd : Nat} (hfree : s.fds fd = none) :
      ServerStep s (.openOther fd) { s with fds := Function.update s.fds fd (some .other) }
  | closeOther {fd : Nat} (hother : s.fds fd = some .other) :
      ServerStep s (.closeOther fd) { s with fds := Function.update s.fds fd none }

/-- Sending changes nothing but what the connections have received. -/
theorem sendAll_frame {data : List UInt8} {results : Nat → SendResult} {fds : List Nat}
    {s t : TcpServer} (h : fds.foldlM (sendTo data results) s = some t) :
    ∃ received, t = { s with received := received } := by
  induction fds generalizing s with
  | nil =>
      cases h
      exact ⟨_, rfl⟩
  | cons fd fds ih =>
      rw [List.foldlM_cons] at h
      rcases Option.bind_eq_some_iff.mp h with ⟨u, hu, hrest⟩
      have hone : ∃ received, u = { s with received := received } := by
        unfold sendTo at hu
        split at hu
        · split at hu
          · exact ⟨_, (Option.some.inj hu).symm⟩
          · exact ⟨s.received, (Option.some.inj hu).symm⟩
          · cases hu
        · exact ⟨s.received, (Option.some.inj hu).symm⟩
      rcases hone with ⟨received, rfl⟩
      rcases ih hrest with ⟨final, rfl⟩
      exact ⟨final, rfl⟩

theorem serverStep_inv {s t : TcpServer} {a : ServerAction} (h : serverStep s a = some t) :
    ServerStep s a t := by
  cases a with
  | accept fd =>
      rw [serverStep] at h
      split at h
      · rename_i hg
        cases h
        exact .accept hg.1 hg.2
      · cases h
  | register =>
      rw [serverStep] at h
      split at h
      · rename_i fd c hpc
        split at h
        · cases h
          exact .register hpc _
        · rename_i hfull
          cases h
          exact .refuse hpc hfull
      · cases h
  | createHandler created =>
      rw [serverStep] at h
      split at h
      · rename_i fd c hpc
        cases h
        cases created with
        | true => exact .create hpc
        | false => exact .createFails hpc
      · cases h
  | closeRefused =>
      rw [serverStep] at h
      split at h
      · rename_i fd c hpc
        cases h
        exact .closeRefused hpc
      · cases h
  | removeClient c =>
      rw [serverStep] at h
      split at h
      · rename_i fd hh
        cases h
        exact .remove hh
      · cases h
  | closeClient c =>
      rw [serverStep] at h
      split at h
      · rename_i fd hh
        cases h
        exact .close hh
      · cases h
  | send data results =>
      rw [serverStep] at h
      rcases sendAll_frame h with ⟨received, rfl⟩
      exact .send received h
  | openOther fd =>
      rw [serverStep] at h
      split at h
      · rename_i hg
        cases h
        exact .openOther hg
      · cases h
  | closeOther fd =>
      rw [serverStep] at h
      split at h
      · rename_i hg
        cases h
        exact .closeOther hg
      · cases h

/-! ## Removing an entry -/

theorem removeClient_perm {clientFds : FixedBuffer Nat maxClients} {fd : Nat}
    (h : fd ∈ clientFds.contents) :
    (fd :: (removeClient clientFds fd).contents).Perm clientFds.contents := by
  have hlt := List.idxOf_lt_length_of_mem h
  have hperm := clientFds.contents_swapRemove_perm (clientFds.contents.idxOf fd)
    (by rwa [FixedBuffer.length_contents] at hlt) hlt
  rw [List.getElem_idxOf] at hperm
  rwa [removeClient, dif_pos h]

/-- In a table without repetitions a removal takes out its own entry and keeps the others. -/
theorem mem_removeClient {clientFds : FixedBuffer Nat maxClients} {fd : Nat}
    (hnodup : clientFds.contents.Nodup) {x : Nat} :
    x ∈ (removeClient clientFds fd).contents ↔ x ∈ clientFds.contents ∧ x ≠ fd := by
  by_cases h : fd ∈ clientFds.contents
  · have hperm := removeClient_perm h
    have hcons := hperm.nodup_iff.mpr hnodup
    rw [← hperm.mem_iff, List.mem_cons]
    rw [List.nodup_cons] at hcons
    refine ⟨fun hx => ⟨.inr hx, fun he => hcons.1 (he ▸ hx)⟩, fun hx => ?_⟩
    exact hx.1.resolve_left hx.2
  · rw [removeClient, dif_neg h]
    exact ⟨fun hx => ⟨hx, fun he => h (he ▸ hx)⟩, And.left⟩

theorem nodup_removeClient {clientFds : FixedBuffer Nat maxClients} {fd : Nat}
    (hnodup : clientFds.contents.Nodup) : (removeClient clientFds fd).contents.Nodup := by
  by_cases h : fd ∈ clientFds.contents
  · exact (List.nodup_cons.mp ((removeClient_perm h).nodup_iff.mpr hnodup)).2
  · rwa [removeClient, dif_neg h]

end NodeBridge
