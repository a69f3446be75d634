import NodeBridge.Reasoning.Simulation
import NodeBridge.Tcp.BrokenPeers

/-!
# The client mutex

The server once more, with the critical sections under `client_mutex` taken apart: `tcp_server_send`
locks, sends to one entry after another and unlocks, the accepting thread locks, tests, stores and
unlocks, and a handler locks, looks at one entry after another and unlocks.  The other steps of the
threads go on in between.  The server whose sections are single actions is what these come to.
-/

open Reasoning

namespace NodeBridge

/-- Who holds `client_mutex`, and how far the section has got. -/
inductive ClientMutex where
  | free
  | sending (data : List UInt8) (i : Nat) -- the loop of `tcp_server_send` is at `client_fds[i]`
  | registering -- `tcp_server_thread`, before its test
  | registered -- `tcp_server_thread`, about to unlock
  | scanning (c fd i : Nat) -- the loop of the handler of `c` is at `client_fds[i]`
  | scanned (c : Nat) -- the handler of `c`, about to unlock
deriving DecidableEq

structure LockedServer where
  server : TcpServer
  mutex : ClientMutex

def LockedServer.initial (isOpen : Nat → Bool) : LockedServer := ⟨.initial isOpen, .free⟩

inductive LockedAction where
  | lockSend (data : List UInt8)
  | sendNext (result : SendResult)
  | unlockSend
  | lockRegister
  | register
  | unlockRegister
  | lockRemove (c : Nat)
  | compare
  | unlockRemove
  | unlocked (a : ServerAction)

-- The step is outside the critical sections, and its thread is not in one.
def LockedServer.mayRun (f : LockedServer) : ServerAction → Bool
  | .send _ _ => false
  | .register => false
  | .removeClient _ => false
  | .createHandler _ => f.mutex ≠ .registered
  | .closeRefused => f.mutex ≠ .registered
  | .closeClient c => f.mutex ≠ .scanned c
  | _ => true

-- What the handler of `c` leaves behind its loop, with this table.
def TcpServer.removed (s : TcpServer) (c fd : Nat) (clientFds : FixedBuffer Nat maxClients) :
    LockedServer where
  server := { s with
    clientFds := clientFds
    handlers := Function.update s.handlers c (some ⟨fd, .closing⟩)
    log := s.log ++ [.removed c] }
  mutex := .scanned c

/-- One step of one thread; `none` when it is not there or has to wait. -/
def lockedStep (f : LockedServer) : LockedAction → Option LockedServer
  | .lockSend data => if f.mutex = .free then some { f with mutex := .sending data 0 } else none
  | .sendNext result =>
      match f.mutex with
      | .sending data i =>
          if h : i < f.server.registered.length then
            (sendTo data (fun _ => result) f.server (f.server.registered.get ⟨i, h⟩)).map
              fun server => ⟨server, .sending data (i + 1)⟩
          else none
      | _ => none
  | .unlockSend =>
      match f.mutex with
      | .sending data i =>
          if i < f.server.registered.length then none
          else some ⟨{ f.server with log := f.server.log ++ [.sent data] }, .free⟩
      | _ => none
  | .lockRegister =>
      match f.mutex, f.server.thread with
      | .free, .accepted _ _ => some { f with mutex := .registering }
      | _, _ => none
  | .register =>
      if f.mutex = .registering then
        (serverStep f.server .register).map fun server => ⟨server, .registered⟩
      else none
  | .unlockRegister => if f.mutex = .registered then some { f with mutex := .free } else none
  | .lockRemove c =>
      match f.mutex, f.server.handlers c with
      | .free, some ⟨fd, .receiving⟩ => some { f with mutex := .scanning c fd 0 }
      | _, _ => none
  | .compare =>
      match f.mutex with
      | .scanning c fd i =>
          if h : i < f.server.clientFds.len then
            if f.server.registered[i]? = some fd then
              some (f.server.removed c fd (f.server.clientFds.swapRemove i h))
            else some { f with mutex := .scanning c fd (i + 1) }
          else some (f.server.removed c fd f.server.clientFds)
      | _ => none
  | .unlockRemove =>
      match f.mutex with
      | .scanned _ => some { f with mutex := .free }
      | _ => none
  | .unlocked a =>
      if f.mayRun a then (serverStep f.server a).map fun server => { f with server := server }
      else none

/-! ## What one step can do -/

/-- The steps of `lockedStep` with their guards, for case analysis. -/
inductive LockedStep : LockedServer → LockedAction → LockedServer → Prop where
  | lockSend {s : TcpServer} {data : List UInt8} :
      LockedStep ⟨s, .free⟩ (.lockSend data) ⟨s, .sending data 0⟩
  | sendNext {s t : TcpServer} {data : List UInt8} {i : Nat} {result : SendResult}
      (hi : i < s.registered.length)
      (h : sendTo data (fun _ => result) s s.registered[i] = some t) :
      LockedStep ⟨s, .sending data i⟩ (.sendNext result) ⟨t, .sending data (i + 1)⟩
  | unlockSend {s : TcpServer} {data : List UInt8} {i : Nat} (hi : ¬ i < s.registered.length) :
      LockedStep ⟨s, .sending data i⟩ .unlockSend ⟨{ s with log := s.log ++ [.sent data] }, .free⟩
  | lockRegister {s : TcpServer} {fd c : Nat} (hpc : s.thread = .accepted fd c) :
      LockedStep ⟨s, .free⟩ .lockRegister ⟨s, .registering⟩
  | register {s t : TcpServer} (h : serverStep s .register = some t) :
      LockedStep ⟨s, .registering⟩ .register ⟨t, .registered⟩
  | unlockRegister {s : TcpServer} : LockedStep ⟨s, .registered⟩ .unlockRegister ⟨s, .free⟩
  | lockRemove {s : TcpServer} {c fd : Nat} (hh : s.handlers c = some ⟨fd, .receiving⟩) :
      LockedStep ⟨s, .free⟩ (.lockRemove c) ⟨s, .scanning c fd 0⟩
  | found {s : TcpServer} {c fd i : Nat} (hi : i < s.clientFds.len)
      (hentry : s.registered[i]? = some fd) :
      LockedStep ⟨s, .scanning c fd i⟩ .compare
        (s.removed c fd (s.clientFds.swapRemove i hi))
  | next {s : TcpServer} {c fd i : Nat} (hi : i < s.clientFds.len)
      (hentry : s.registered[i]? ≠ some fd) :
      LockedStep ⟨s, .scanning c fd i⟩ .compare ⟨s, .scanning c fd (i + 1)⟩
  | ended {s : TcpServer} {c fd i : Nat} (hi : ¬ i < s.clientFds.len) :
      LockedStep ⟨s, .scanning c fd i⟩ .compare (s.removed c fd s.clientFds)
  | unlockRemove {s : TcpServer} {c : Nat} :
      LockedStep ⟨s, .scanned c⟩ .unlockRemove ⟨s, .free⟩
  | unlocked {s t : TcpServer} {mutex : ClientMutex} {a : ServerAction}
      (ha : LockedServer.mayRun ⟨s, mutex⟩ a = true) (h : serverStep s a = some t) :
      LockedStep ⟨s, mutex⟩ (.unlocked a) ⟨t, mutex⟩

theorem lockedStep_inv {f g : LockedServer} {b : LockedAction} (h : lockedStep f b = some g) :
    LockedStep f b g := by
  rcases f with ⟨server, mutex⟩
  cases b with
  | lockSend data =>
      simp only [lockedStep, Option.ite_none_right_eq_some] at h
      rcases h with ⟨rfl, h⟩
      cases h
      exact .lockSend
  | sendNext result =>
      cases mutex with
      | sending data i =>
          simp only [lockedStep, Option.dite_none_right_eq_some] at h
          rcases h with ⟨hi, h⟩
          rcases Option.map_eq_some_iff.mp h with ⟨t, ht, rfl⟩
          exact .sendNext hi ht
      | _ => cases h
  | unlockSend =>
      cases mutex with
      | sending data i =>
          simp only [lockedStep, Option.ite_none_left_eq_some] at h
          rcases h with ⟨hi, h⟩
          cases h
          exact .unlockSend hi
      | _ => cases h
  | lockRegister =>
      simp only [lockedStep] at h
      split at h
      · rename_i fd c hpc
        cases h
        exact .lockRegister hpc
      · cases h
  | register =>
      simp only [lockedStep, Option.ite_none_right_eq_some] at h
      rcases h with ⟨rfl, h⟩
      rcases Option.map_eq_some_iff.mp h with ⟨t, ht, rfl⟩
      exact .register ht
  | unlockRegister =>
      simp only [lockedStep, Option.ite_none_right_eq_some] at h
      rcases h with ⟨rfl, h⟩
      cases h
      exact .unlockRegister
  | lockRemove c =>
      simp only [lockedStep] at h
      split at h
      · rename_i fd hh
        cases h
        exact .lockRemove hh
      · cases h
  | compare =>
      cases mutex with
      | scanning c fd i =>
          simp only [lockedStep] at h
          split at h
          · rename_i hi
            split at h
            · rename_i hentry
              cases h
              exact .found hi hentry
            · rename_i hentry
              cases h
              exact .next hi hentry
          · rename_i hi
            cases h
            exact .ended hi
      | _ => cases h
  | unlockRemove =>
      cases mutex with
      | scanned c =>
          cases h
          exact .unlockRemove
      | _ => cases h
  | unlocked a =>
      simp only [lockedStep, Option.ite_none_right_eq_some] at h
      rcases h with ⟨ha, h⟩
      rcases Option.map_eq_some_iff.mp h with ⟨t, ht, rfl⟩
      exact .unlocked ha ht

/-! ## Steps outside the sections -/

/-- What a step outside the sections leaves alone. -/
structure Outside (s t : TcpServer) : Prop where
  table : t.clientFds = s.clientFds
  received : t.received = s.received
  log : t.log = s.log
  listed : ∀ fd ∈ s.registered, t.fds fd = s.fds fd
  receiving : ∀ c fd, s.handlers c = some ⟨fd, .receiving⟩ → t.handlers c = s.handlers c
  accepted : ∀ fd c, s.thread = .accepted fd c → t.thread = s.thread

theorem outside_of_mayRun {f : LockedServer} {s t : TcpServer} {a : ServerAction}
    (hs : ServerInv s) (ha : f.mayRun a = true) (h : serverStep s a = some t) : Outside s t := by
  cases serverStep_inv h with
  | @accept fd hpc hfree =>
      refine ⟨rfl, rfl, rfl, fun fd' hfd' => Function.update_of_ne ?_ _ _, fun _ _ _ => rfl, ?_⟩
      · rintro rfl
        rcases hs.listed_open _ hfd' with ⟨c, hopen⟩
        cases hfree.symm.trans hopen
      · intro fd' c hpc'
        cases hpc.symm.trans hpc'
  | register => cases ha
  | refuse => cases ha
  | @create fd c hpc =>
      refine ⟨rfl, rfl, rfl, fun _ _ => rfl, fun c' fd' hh => Function.update_of_ne ?_ _ _, ?_⟩
      · rintro rfl
        cases (hs.inHand_open fd c' (by rw [hpc]; rfl)).2.symm.trans hh
      · intro fd' c' hpc'
        cases hpc.symm.trans hpc'
  | createFails hpc =>
      refine ⟨rfl, rfl, rfl, fun _ _ => rfl, fun _ _ _ => rfl, fun fd' c' hpc' => ?_⟩
      cases hpc.symm.trans hpc'
  | @closeRefused fd c hpc =>
      refine ⟨rfl, rfl, rfl, fun fd' hfd' => Function.update_of_ne ?_ _ _, fun _ _ _ => rfl, ?_⟩
      · rintro rfl
        have hlisted := (hs.inHand_listed fd' c (by rw [hpc]; rfl)).mp hfd'
        cases hpc.symm.trans hlisted
      · intro fd' c' hpc'
        cases hpc.symm.trans hpc'
  | remove => cases ha
  | @close fd c hclosing =>
      refine ⟨rfl, rfl, rfl, fun fd' hfd' => Function.update_of_ne ?_ _ _,
        fun c' fd' hh => Function.update_of_ne ?_ _ _, fun _ _ _ => rfl⟩
      · rintro rfl
        exact hs.closing_unlisted c fd' hclosing hfd'
      · rintro rfl
        cases hclosing.symm.trans hh
  | send => cases ha
  | @openOther fd hfree =>
      refine ⟨rfl, rfl, rfl, fun fd' hfd' => Function.update_of_ne ?_ _ _, fun _ _ _ => rfl,
        fun _ _ _ => rfl⟩
      rintro rfl
      rcases hs.listed_open _ hfd' with ⟨c, hopen⟩
      cases hfree.symm.trans hopen
  | @closeOther fd hother =>
      refine ⟨rfl, rfl, rfl, fun fd' hfd' => Function.update_of_ne ?_ _ _, fun _ _ _ => rfl,
        fun _ _ _ => rfl⟩
      rintro rfl
      rcases hs.listed_open _ hfd' with ⟨c, hopen⟩
      cases hother.symm.trans hopen

/-- Steps outside the sections do not look at what was received. -/
theorem serverStep_withReceived {f : LockedServer} {s : TcpServer} {a : ServerAction}
    (ha : f.mayRun a = true) (received : Nat → List UInt8) :
    serverStep { s with received := received } a =
      (serverStep s a).map fun t => { t with received := received } := by
  cases a with
  | send data results => cases ha
  | register => cases ha
  | removeClient c => cases ha
  | accept fd => simp only [serverStep]; split <;> rfl
  | createHandler created => simp only [serverStep]; split <;> rfl
  | closeRefused => simp only [serverStep]; split <;> rfl
  | closeClient c => simp only [serverStep]; split <;> rfl
  | openOther fd => simp only [serverStep]; split <;> rfl
  | closeOther fd => simp only [serverStep]; split <;> rfl

/-! ## A loop of sends with other steps in between -/

section

variable {data : List UInt8} {results : Nat → SendResult}

theorem sendTo_congr {s s' t : TcpServer} {fd : Nat} (hfd : s'.fds fd = s.fds fd)
    (hreceived : s'.received = s.received) (h : sendTo data results s fd = some t) :
    sendTo data results s' fd = some { s' with received := t.received } := by
  unfold sendTo at h ⊢
  rw [hfd]
  split at h
  · split at h
    · cases h
      simp only [hreceived]
    · cases h
      simp only [← hreceived]
    · cases h
  · cases h
    simp only [← hreceived]

/-- The sends come to the same on any server with these descriptors at these entries. -/
theorem sendAll_congr {fds : List Nat} {s s' t : TcpServer}
    (hfds : ∀ fd ∈ fds, s'.fds fd = s.fds fd) (hreceived : s'.received = s.received)
    (h : fds.foldlM (sendTo data results) s = some t) :
    fds.foldlM (sendTo data results) s' = some { s' with received := t.received } := by
  induction fds generalizing s s' with
  | nil =>
      cases h
      rw [← hreceived]
      rfl
  | cons fd fds ih =>
      rw [List.forall_mem_cons] at hfds
      rw [List.foldlM_cons] at h ⊢
      rcases Option.bind_eq_some_iff.mp h with ⟨u, hu, hrest⟩
      have hone := sendTo_congr hfds.1 hreceived hu
      have hu_fds := sendTo_fds hu
      have htail := @ih u { s' with received := u.received }
        (fun fd' hfd' => by rw [hu_fds]; exact hfds.2 fd' hfd') rfl hrest
      exact Option.bind_eq_some_iff.mpr ⟨_, hone, htail⟩

-- Only the results for the connections of these entries matter.
theorem sendAll_results {results' : Nat → SendResult} {fds : List Nat} {s : TcpServer}
    (h : ∀ fd ∈ fds, ∀ c, s.fds fd = some (.connection c) → results' c = results c) :
    fds.foldlM (sendTo data results') s = fds.foldlM (sendTo data results) s := by
  induction fds generalizing s with
  | nil => rfl
  | cons fd fds ih =>
      rw [List.forall_mem_cons] at h
      have hone : sendTo data results' s fd = sendTo data results s fd := by
        unfold sendTo
        split
        · rename_i c hfd
          rw [h.1 c hfd]
        · rfl
      rw [List.foldlM_cons, List.foldlM_cons, hone]
      cases hu : sendTo data results s fd with
      | none => rfl
      | some u =>
          refine ih fun fd' hfd' c hc => h.2 fd' hfd' c ?_
          rwa [sendTo_fds hu] at hc

/-- One more send, with a result of its own. -/
theorem sendAll_snoc {fds : List Nat} {s t u : TcpServer} {fd : Nat}
    (hnew : fd ∉ fds)
    (huniq : ∀ fd fd' c, s.fds fd = some (.connection c) → s.fds fd' = some (.connection c) →
      fd = fd')
    (ht : fds.foldlM (sendTo data results) s = some t) {result : SendResult}
    (hu : sendTo data (fun _ => result) t fd = some u) :
    ∃ results', (fds ++ [fd]).foldlM (sendTo data results') s = some u := by
  rcases sendAll_frame ht with ⟨received, rfl⟩
  cases hfd : s.fds fd with
  | none =>
      refine ⟨results, ?_⟩
      rw [List.foldlM_append, ht]
      simpa [sendTo, hfd] using hu
  | some d =>
      cases d with
      | other =>
          refine ⟨results, ?_⟩
          rw [List.foldlM_append, ht]
          simpa [sendTo, hfd] using hu
      | connection c =>
          refine ⟨Function.update results c result, ?_⟩
          have hbefore : fds.foldlM (sendTo data (Function.update results c result)) s =
              fds.foldlM (sendTo data results) s := by
            refine sendAll_results fun fd' hfd' c' hc' => Function.update_of_ne ?_ _ _
            rintro rfl
            exact hnew (huniq fd fd' c' hfd hc' ▸ hfd')
          rw [List.foldlM_append, hbefore, ht]
          simpa [sendTo, hfd] using hu

end

/-! ## The sections are atomic -/

/-- The server with atomic sections that this one has got to.  A loop of sends has not begun there
    until it ends here; the other sections happen in the step that changes the table. -/
def Behind (f : LockedServer) (s : TcpServer) : Prop :=
  match f.mutex with
  | .sending data i => i ≤ s.registered.length ∧
      ∃ results, (s.registered.take i).foldlM (sendTo data results) s = some f.server
  | .registering => f.server = s ∧ ∃ fd c, s.thread = .accepted fd c
  | .scanning c fd i =>
      f.server = s ∧ s.handlers c = some ⟨fd, .receiving⟩ ∧ fd ∉ s.registered.take i
  | _ => f.server = s

-- The atomic actions that a step amounts to.
def LockedAction.Performs : LockedAction → List ServerAction → Prop
  | .unlocked a, as => as = [a]
  | .unlockSend, as => ∃ data results, as = [.send data results]
  | .register, as => as = [.register]
  | .compare, as => as = [] ∨ ∃ c, as = [.removeClient c]
  | _, as => as = []

/-- In all states only what was received differs, and only in a loop of sends. -/
theorem Behind.server_eq {f : LockedServer} {s : TcpServer} (h : Behind f s) :
    f.server = { s with received := f.server.received } := by
  unfold Behind at h
  split at h
  · rcases h with ⟨-, results, hsends⟩
    rcases sendAll_frame hsends with ⟨received, hserver⟩
    rw [hserver]
  · rw [h.1]
  · rw [h.1]
  · rw [h]

theorem behind_initial (isOpen : Nat → Bool) : Behind (.initial isOpen) (.initial isOpen) := rfl

theorem Behind.of_free {s t : TcpServer} (h : Behind ⟨t, .free⟩ s) : t = s := h

theorem Behind.server_of_not_sending {f : LockedServer} {s : TcpServer} (h : Behind f s)
    (hnot : ∀ data i, f.mutex ≠ .sending data i) : f.server = s := by
  unfold Behind at h
  split at h
  · rename_i data i hm
    exact absurd hm (hnot data i)
  · exact h.1
  · exact h.1
  · exact h

theorem serverInv_withReceived {s : TcpServer} (hs : ServerInv s) (received : Nat → List UInt8) :
    ServerInv { s with received := received } :=
  ⟨hs.nodup, hs.listed_open, hs.handler_open, hs.receiving_listed, hs.closing_unlisted,
    hs.inHand_open, hs.inHand_listed, hs.conn_lt, hs.unique⟩

section

variable {f g : LockedServer} {s : TcpServer}

theorem behind_unlocked (hs : ServerInv s) (hf : Behind f s) {a : ServerAction}
    (ha : f.mayRun a = true) {t : TcpServer} (h : serverStep f.server a = some t) :
    ∃ s', serverStep s a = some s' ∧ Behind { f with server := t } s' := by
  have hserver := hf.server_eq
  rw [hserver, serverStep_withReceived ha] at h
  rcases Option.map_eq_some_iff.mp h with ⟨s', hs', rfl⟩
  refine ⟨s', hs', ?_⟩
  have hout := outside_of_mayRun hs ha hs'
  have htable : s'.registered = s.registered := congrArg FixedBuffer.contents hout.table
  unfold Behind at hf ⊢
  cases hm : f.mutex with
  | sending data i =>
      rw [hm] at hf
      rcases hf with ⟨hi, results, hsends⟩
      simp only [htable]
      refine ⟨hi, results, ?_⟩
      exact sendAll_congr (fun fd hfd => hout.listed fd (List.mem_of_mem_take hfd)) hout.received
        hsends
  | registering =>
      rw [hm] at hf
      rcases hf with ⟨hsame, fd, c, hpc⟩
      refine ⟨?_, fd, c, (hout.accepted fd c hpc).trans hpc⟩
      simp only [hsame, ← hout.received]
  | scanning c fd i =>
      rw [hm] at hf
      rcases hf with ⟨hsame, hhandler, hnot⟩
      refine ⟨?_, (hout.receiving c fd hhandler).trans hhandler, by rwa [htable]⟩
      simp only [hsame, ← hout.received]
  | _ =>
      rw [hm] at hf
      simp only at hf
      simp only [hf, ← hout.received]

theorem behind_sendNext (hs : ServerInv s) {data : List UInt8} {i : Nat} {server : TcpServer}
    (hf : Behind ⟨server, .sending data i⟩ s) (hi : i < server.registered.length)
    {result : SendResult} {t : TcpServer}
    (h : sendTo data (fun _ => result) server server.registered[i] = some t) :
    Behind ⟨t, .sending data (i + 1)⟩ s := by
  rcases hf with ⟨-, results, hsends⟩
  have hserver : server.registered = s.registered := by
    rcases sendAll_frame hsends with ⟨received, rfl⟩
    rfl
  have hi' : i < s.registered.length := by rwa [hserver] at hi
  have hget : server.registered[i] = s.registered[i] := by simp only [hserver]
  rw [hget] at h
  have hnew : s.registered[i] ∉ s.registered.take i := by
    have htake := List.take_concat_get' s.registered i hi'
    have hnodup := hs.nodup.sublist (List.take_sublist (i + 1) s.registered)
    rw [← htake] at hnodup
    exact fun hmem => (List.nodup_append.mp hnodup).2.2 _ hmem _ (List.mem_singleton.mpr rfl) rfl
  rcases sendAll_snoc hnew hs.unique hsends h with ⟨results', hall⟩
  refine ⟨hi', results', ?_⟩
  rwa [List.take_concat_get' s.registered i hi'] at hall

theorem behind_unlockSend {data : List UInt8} {i : Nat} {server : TcpServer}
    (hf : Behind ⟨server, .sending data i⟩ s) (hi : ¬ i < server.registered.length) :
    ∃ results, serverStep s (.send data results) =
      some { server with log := server.log ++ [.sent data] } := by
  rcases hf with ⟨hle, results, hsends⟩
  refine ⟨results, ?_⟩
  rcases sendAll_frame hsends with ⟨received, rfl⟩
  have hlen : s.registered.length ≤ i := Nat.le_of_not_lt hi
  rw [List.take_of_length_le hlen] at hsends
  have hstart := @sendAll_congr data results s.registered s { s with log := s.log ++ [.sent data] }
    _ (fun _ _ => rfl) rfl hsends
  exact hstart

/-- What the loop of the handler does when it comes to its entry. -/
theorem removeClient_at {i : Nat} {fd : Nat} (hs : ServerInv s) (hi : i < s.clientFds.len)
    (hentry : s.registered[i]? = some fd) :
    removeClient s.clientFds fd = s.clientFds.swapRemove i hi := by
  rcases List.getElem?_eq_some_iff.mp hentry with ⟨hlt, rfl⟩
  have hidx : s.clientFds.contents.idxOf s.registered[i] = i := hs.nodup.idxOf_getElem i hlt
  have hmem : s.registered[i] ∈ s.clientFds.contents := List.getElem_mem hlt
  rw [removeClient, dif_pos hmem]
  simp only [hidx]

-- The step that changes the table is the removal.
theorem behind_removed {c fd : Nat} (hhandler : s.handlers c = some ⟨fd, .receiving⟩) :
    ∃ s', run serverStep s [.removeClient c] = some s' ∧
      Behind (s.removed c fd (removeClient s.clientFds fd)) s' := by
  refine ⟨_, ?_, rfl⟩
  rw [run_cons, serverStep, hhandler]
  rfl

/-- **One step** of the server with its mutex is one atomic action or none. -/
theorem lockedStep_behind (hs : ServerInv s) (hf : Behind f s) {b : LockedAction}
    (h : lockedStep f b = some g) :
    ∃ as s', LockedAction.Performs b as ∧ run serverStep s as = some s' ∧ Behind g s' := by
  cases lockedStep_inv h with
  | lockSend =>
      exact ⟨[], s, rfl, rfl, Nat.zero_le _, fun _ => .failed, congrArg some hf.of_free.symm⟩
  | sendNext hi hsend => exact ⟨[], s, rfl, rfl, behind_sendNext hs hf hi hsend⟩
  | unlockSend hi =>
      rcases behind_unlockSend hf hi with ⟨results, hstep⟩
      exact ⟨_, _, ⟨_, results, rfl⟩, run_cons_eq_some.mpr ⟨_, hstep, rfl⟩, rfl⟩
  | @lockRegister _ fd c hpc =>
      obtain rfl := hf.of_free
      exact ⟨[], _, rfl, rfl, rfl, fd, c, hpc⟩
  | @register _ t ht =>
      rcases hf with ⟨rfl, -⟩
      exact ⟨_, t, rfl, run_cons_eq_some.mpr ⟨t, ht, rfl⟩, rfl⟩
  | unlockRegister => exact ⟨[], s, rfl, rfl, hf⟩
  | lockRemove hh =>
      obtain rfl := hf.of_free
      exact ⟨[], _, rfl, rfl, rfl, hh, by simp⟩
  | @found _ c fd i hi hentry =>
      rcases hf with ⟨rfl, hhandler, -⟩
      rcases behind_removed hhandler with ⟨s', hrun, hbehind⟩
      rw [removeClient_at hs hi hentry] at hbehind
      exact ⟨_, s', .inr ⟨c, rfl⟩, hrun, hbehind⟩
  | @next server c fd i hi hentry =>
      rcases hf with ⟨rfl, hhandler, hnot⟩
      refine ⟨[], server, .inl rfl, rfl, rfl, hhandler, ?_⟩
      rw [List.take_add_one, List.mem_append]
      rintro (hmem | hmem)
      · exact hnot hmem
      · exact hentry (Option.mem_toList.mp hmem)
  | @ended server c fd i hi =>
      rcases hf with ⟨rfl, hhandler, hnot⟩
      have hlen : server.registered.length ≤ i := by
        rw [TcpServer.registered, FixedBuffer.length_contents]
        exact Nat.le_of_not_lt hi
      rw [List.take_of_length_le hlen] at hnot
      have htable : removeClient server.clientFds fd = server.clientFds := dif_neg hnot
      rcases @behind_removed server c fd hhandler with ⟨s', hrun, hbehind⟩
      rw [htable] at hbehind
      exact ⟨_, s', .inr ⟨c, rfl⟩, hrun, hbehind⟩
  | unlockRemove => exact ⟨[], s, rfl, rfl, hf⟩
  | unlocked ha ht =>
      rcases behind_unlocked hs hf ha ht with ⟨s', hs', hbehind⟩
      exact ⟨_, s', rfl, run_cons_eq_some.mpr ⟨s', hs', rfl⟩, hbehind⟩

end

theorem lockedStep_simulates : Simulates lockedStep serverStep LockedAction.Performs
    fun f s => ServerInv s ∧ Behind f s := by
  rintro f s b g ⟨hs, hf⟩ h
  rcases lockedStep_behind hs hf h with ⟨as, s', hperforms, hrun, hg⟩
  have hs' := run_invariant (fun _ _ _ => serverInv_step) hs hrun
  exact ⟨as, s', hperforms, hrun, hs', hg⟩

/-! ## The atomic actions, step by step -/

theorem exists_sendTo {data : List UInt8} {results : Nat → SendResult} (s : TcpServer) (fd : Nat) :
    ∃ result, sendTo data (fun _ => result) s fd = sendTo data results s fd := by
  cases hfd : s.fds fd with
  | none => exact ⟨.failed, by simp only [sendTo, hfd]⟩
  | some d =>
      cases d with
      | other => exact ⟨.failed, by simp only [sendTo, hfd]⟩
      | connection c => exact ⟨results c, by simp only [sendTo, hfd]⟩

theorem exists_sends {data : List UInt8} {results : Nat → SendResult} {s t : TcpServer} {i : Nat}
    (h : (s.registered.drop i).foldlM (sendTo data results) s = some t) :
    ∃ bs j, (∀ b ∈ bs, ∃ result, b = .sendNext result) ∧ ¬ j < t.registered.length ∧
      run lockedStep ⟨s, .sending data i⟩ bs = some ⟨t, .sending data j⟩ := by
  induction hfds : s.registered.drop i generalizing s i with
  | nil =>
      rw [hfds] at h
      cases h
      exact ⟨[], i, by simp, Nat.not_lt.mpr (List.drop_eq_nil_iff.mp hfds), rfl⟩
  | cons fd fds ih =>
      rw [hfds, List.foldlM_cons] at h
      rcases Option.bind_eq_some_iff.mp h with ⟨u, hu, hrest⟩
      have hi : i < s.registered.length := by
        by_contra hno
        rw [List.drop_of_length_le (Nat.le_of_not_lt hno)] at hfds
        cases hfds
      rw [List.drop_eq_getElem_cons hi] at hfds
      rcases List.cons.inj hfds with ⟨rfl, htail⟩
      have hregistered : u.registered = s.registered := by
        have hone : [s.registered[i]].foldlM (sendTo data results) s = some u := by
          rw [List.foldlM_cons, hu]
          rfl
        rcases sendAll_frame hone with ⟨received, rfl⟩
        rfl
      rcases @ih u (i + 1) (by rwa [hregistered, htail]) (by rw [hregistered, htail]) with
        ⟨bs, j, hbs, hj, hrun⟩
      rcases @exists_sendTo data results s s.registered[i] with ⟨result, hresult⟩
      refine ⟨.sendNext result :: bs, j, List.forall_mem_cons.mpr ⟨⟨result, rfl⟩, hbs⟩, hj,
        run_cons_eq_some.mpr ⟨_, ?_, hrun⟩⟩
      simp only [lockedStep]
      rw [dif_pos hi, List.get_eq_getElem, hresult, hu]
      rfl

/-- A call of `tcp_server_send`, once it has the mutex. -/
theorem exists_send {data : List UInt8} {results : Nat → SendResult} {s t : TcpServer}
    (h : tcpServerSend s data results = some t) :
    ∃ bs g, (∀ b ∈ bs, ∃ result, b = .sendNext result) ∧
      run lockedStep ⟨s, .sending data 0⟩ bs = some g ∧
      lockedStep g .unlockSend = some ⟨t, .free⟩ := by
  rw [tcpServerSend] at h
  rcases sendAll_frame h with ⟨received, rfl⟩
  -- the history is written at the end of the section here, and at its start there
  have hsends := @sendAll_congr data results s.registered
    { s with log := s.log ++ [.sent data] } s _ (fun _ _ => rfl) rfl h
  rcases @exists_sends data results s _ 0 (by rwa [List.drop_zero]) with ⟨bs, j, hbs, hj, hrun⟩
  refine ⟨bs, _, hbs, hrun, ?_⟩
  simp only [lockedStep]
  rw [if_neg hj]

theorem exists_compares {s : TcpServer} (hs : ServerInv s) {c fd i : Nat}
    (hnot : fd ∉ s.registered.take i) :
    ∃ bs, (∀ b ∈ bs, b = .compare) ∧ run lockedStep ⟨s, .scanning c fd i⟩ bs =
      some (s.removed c fd (removeClient s.clientFds fd)) := by
  induction hn : s.clientFds.len - i generalizing i with
  | zero =>
      have hend : ¬ i < s.clientFds.len := by omega
      have hnone : fd ∉ s.clientFds.contents := by
        rwa [List.take_of_length_le (by
          rw [TcpServer.registered, FixedBuffer.length_contents]
          omega)] at hnot
      refine ⟨[.compare], by simp, run_cons_eq_some.mpr ⟨_, ?_, rfl⟩⟩
      simp only [lockedStep]
      rw [dif_neg hend, removeClient, dif_neg hnone]
  | succ n ih =>
      have hi : i < s.clientFds.len := by omega
      by_cases hentry : s.registered[i]? = some fd
      · refine ⟨[.compare], by simp, run_cons_eq_some.mpr ⟨_, ?_, rfl⟩⟩
        simp only [lockedStep]
        rw [dif_pos hi, if_pos hentry, removeClient_at hs hi hentry]
      · have hnext : fd ∉ s.registered.take (i + 1) := by
          rw [List.take_add_one, List.mem_append]
          rintro (hmem | hmem)
          · exact hnot hmem
          · exact hentry (Option.mem_toList.mp hmem)
        rcases ih hnext (by omega) with ⟨bs, hbs, hrun⟩
        refine ⟨.compare :: bs, List.forall_mem_cons.mpr ⟨rfl, hbs⟩,
          run_cons_eq_some.mpr ⟨_, ?_, hrun⟩⟩
        simp only [lockedStep]
        rw [dif_pos hi, if_neg hentry]

theorem lockedStep_unlocked {s t : TcpServer} {a : ServerAction}
    (ha : LockedServer.mayRun ⟨s, .free⟩ a = true) (h : serverStep s a = some t) :
    lockedStep ⟨s, .free⟩ (.unlocked a) = some ⟨t, .free⟩ := by
  simp only [lockedStep]
  rw [if_pos ha, h]
  rfl

-- Steps of `tcp_server_send`.
def LockedAction.ofSend : LockedAction → Bool
  | .lockSend _ => true
  | .sendNext _ => true
  | .unlockSend => true
  | _ => false

/-- Each action of the server's own threads can be taken step by step, with nothing in between. -/
theorem exists_ownSteps {s t : TcpServer} (hs : ServerInv s) {a : ServerAction}
    (ha : ∀ data results, a ≠ .send data results) (h : serverStep s a = some t) :
    ∃ bs, (∀ b ∈ bs, b.ofSend = false) ∧ run lockedStep ⟨s, .free⟩ bs = some ⟨t, .free⟩ := by
  cases a with
  | send data results => exact absurd rfl (ha data results)
  | register =>
      have hpc : ∃ fd c, s.thread = .accepted fd c := by
        cases serverStep_inv h with
        | register hpc _ => exact ⟨_, _, hpc⟩
        | refuse hpc _ => exact ⟨_, _, hpc⟩
      rcases hpc with ⟨fd, c, hpc⟩
      refine ⟨[.lockRegister, .register, .unlockRegister], by simp [LockedAction.ofSend],
        run_cons_eq_some.mpr ⟨⟨s, .registering⟩, by simp only [lockedStep, hpc],
          run_cons_eq_some.mpr ⟨⟨t, .registered⟩, by simp [lockedStep, h], rfl⟩⟩⟩
  | removeClient c =>
      cases serverStep_inv h with
      | @remove fd _ hhandler =>
          rcases @exists_compares s hs c fd 0 (by simp) with ⟨bs, hbs, hrun⟩
          refine ⟨.lockRemove c :: (bs ++ [.unlockRemove]), fun b hb => ?_,
            run_cons_eq_some.mpr ⟨⟨s, .scanning c fd 0⟩, by simp only [lockedStep, hhandler], ?_⟩⟩
          · rw [List.mem_cons, List.mem_append, List.mem_singleton] at hb
            rcases hb with rfl | hb | rfl
            · rfl
            · rw [hbs b hb]
              rfl
            · rfl
          · rw [run_append, hrun]
            rfl
  | _ =>
      exact ⟨[.unlocked _], by simp [LockedAction.ofSend],
        run_cons_eq_some.mpr ⟨_, lockedStep_unlocked rfl h, rfl⟩⟩

theorem serverStep_locked {s t : TcpServer} (hs : ServerInv s) {a : ServerAction}
    (h : serverStep s a = some t) : ∃ bs, run lockedStep ⟨s, .free⟩ bs = some ⟨t, .free⟩ := by
  by_cases ha : ∃ data results, a = .send data results
  · rcases ha with ⟨data, results, rfl⟩
    rcases exists_send h with ⟨bs, g, -, hrun, hunlock⟩
    refine ⟨.lockSend data :: (bs ++ [.unlockSend]), run_cons_eq_some.mpr ⟨_, rfl, ?_⟩⟩
    rw [run_append, hrun]
    exact run_cons_eq_some.mpr ⟨_, hunlock, rfl⟩
  · simp only [not_exists] at ha
    rcases exists_ownSteps hs ha h with ⟨bs, -, hrun⟩
    exact ⟨bs, hrun⟩

theorem serverStep_lockedSimulates : Simulates serverStep lockedStep (fun _ _ => True)
    fun s f => ServerInv s ∧ f = ⟨s, .free⟩ := by
  rintro s f a t ⟨hs, rfl⟩ h
  rcases serverStep_locked hs h with ⟨bs, hbs⟩
  exact ⟨bs, ⟨t, .free⟩, trivial, hbs, serverInv_step hs h, rfl⟩

/-- **Atomic sections.**  Every interleaving of the single steps comes to one of the server whose
    sections are single actions: with the other steps where they are and each section at one point
    between its locking and its unlocking.  The states that are reached with the mutex free are the
    same. -/
theorem sections_atomic (isOpen : Nat → Bool) :
    (∀ bs f, run lockedStep (.initial isOpen) bs = some f →
      ∃ parts s, List.Forall₂ LockedAction.Performs bs parts ∧
        run serverStep (.initial isOpen) parts.flatten = some s ∧ Behind f s) ∧
      ∀ s, (∃ bs, run lockedStep (.initial isOpen) bs = some ⟨s, .free⟩) ↔
        ∃ as, run serverStep (.initial isOpen) as = some s := by
  have hforward : ∀ bs f, run lockedStep (.initial isOpen) bs = some f →
      ∃ parts s, List.Forall₂ LockedAction.Performs bs parts ∧
        run serverStep (.initial isOpen) parts.flatten = some s ∧ Behind f s := by
    intro bs f hrun
    rcases lockedStep_simulates.run ⟨serverInv_initial isOpen, behind_initial isOpen⟩ hrun with
      ⟨parts, s, hparts, hs, -, hf⟩
    exact ⟨parts, s, hparts, hs, hf⟩
  refine ⟨hforward, fun s => ⟨fun ⟨bs, hbs⟩ => ?_, fun ⟨as, has⟩ => ?_⟩⟩
  · rcases hforward bs _ hbs with ⟨parts, s', -, hs', hbehind⟩
    exact ⟨parts.flatten, by rw [hs', hbehind.of_free]⟩
  · rcases serverStep_lockedSimulates.run ⟨serverInv_initial isOpen, rfl⟩ has with
      ⟨parts, f, -, hf, -, rfl⟩
    exact ⟨parts.flatten, hf⟩

end NodeBridge
