import NodeBridge.Tcp.ClientMutex

/-!
# The holder of the client mutex

The sections are short: whoever holds the mutex can go on and gives it up after a bounded number of
its own steps, whatever the others do in between.  A `send` that does not return is the exception,
and what comes to a halt with it is said here too.
-/

open Reasoning

namespace NodeBridge

-- Steps of the thread that holds the mutex.
def LockedAction.inSection : LockedAction → Bool
  | .sendNext _ => true
  | .unlockSend => true
  | .register => true
  | .unlockRegister => true
  | .compare => true
  | .unlockRemove => true
  | _ => false

/-- How many steps the holder still takes at most. -/
def LockedServer.remaining (f : LockedServer) : Nat :=
  match f.mutex with
  | .free => 0
  | .sending _ i => f.server.clientFds.len - i + 1
  | .registering => 2
  | .registered => 1
  | .scanning _ _ i => f.server.clientFds.len - i + 2
  | .scanned _ => 1

theorem LockedServer.remaining_le (f : LockedServer) : f.remaining ≤ maxClients + 2 := by
  have hlen := f.server.clientFds.len_le
  unfold remaining
  split <;> omega

section

variable {f g : LockedServer} {b : LockedAction}

theorem sendTo_clientFds {data : List UInt8} {results : Nat → SendResult} {s t : TcpServer}
    {fd : Nat} (h : sendTo data results s fd = some t) : t.clientFds = s.clientFds := by
  have hone : [fd].foldlM (sendTo data results) s = some t := by
    rw [List.foldlM_cons, h]
    rfl
  rcases sendAll_frame hone with ⟨received, rfl⟩
  rfl

/-- A step of the holder brings it nearer to the end of its section. -/
theorem remaining_inSection (hb : b.inSection = true) (h : lockedStep f b = some g) :
    g.remaining < f.remaining := by
  cases lockedStep_inv h with
  | sendNext hi hsend =>
      rw [TcpServer.registered, FixedBuffer.length_contents] at hi
      have htable := sendTo_clientFds hsend
      simp only [LockedServer.remaining, htable]
      omega
  | unlockSend hi => exact Nat.succ_pos _
  | register ht => exact Nat.lt_succ_self 1
  | unlockRegister => exact Nat.zero_lt_one
  | found hi hentry =>
      simp only [LockedServer.remaining, TcpServer.removed]
      omega
  | next hi hentry =>
      simp only [LockedServer.remaining]
      omega
  | ended hi =>
      simp only [LockedServer.remaining, TcpServer.removed]
      omega
  | unlockRemove => exact Nat.zero_lt_one
  | lockSend => cases hb
  | lockRegister hpc => cases hb
  | lockRemove hh => cases hb
  | unlocked ha ht => cases hb

/-- A step of another thread leaves the holder and its table alone. -/
theorem lockedStep_held (hheld : f.mutex ≠ .free) (hb : b.inSection = false)
    (h : lockedStep f b = some g) :
    ∃ a t, f.mayRun a = true ∧ serverStep f.server a = some t ∧ g = { f with server := t } := by
  cases lockedStep_inv h with
  | lockSend => exact absurd rfl hheld
  | lockRegister hpc => exact absurd rfl hheld
  | lockRemove hh => exact absurd rfl hheld
  | @unlocked s t mutex a ha ht => exact ⟨a, t, ha, ht, rfl⟩
  | _ => cases hb

end

/-! ## The mutex is released -/

-- The states of the server with its mutex, by way of the atomic one.
def LockedInv (f : LockedServer) : Prop := ∃ s, ServerInv s ∧ Behind f s

theorem lockedInv_step {f g : LockedServer} {b : LockedAction} (hf : LockedInv f)
    (h : lockedStep f b = some g) : LockedInv g := by
  rcases hf with ⟨s, hs, hbehind⟩
  rcases lockedStep_simulates f s b g ⟨hs, hbehind⟩ h with ⟨as, s', -, -, hg⟩
  exact ⟨s', hg⟩

theorem lockedInv_run {isOpen : Nat → Bool} {bs : List LockedAction} {f : LockedServer}
    (h : run lockedStep (.initial isOpen) bs = some f) : LockedInv f :=
  run_invariant (fun _ _ _ => lockedInv_step)
    ⟨_, serverInv_initial isOpen, behind_initial isOpen⟩ h

theorem LockedInv.serverInv {f : LockedServer} (hf : LockedInv f) : ServerInv f.server := by
  rcases hf with ⟨s, hs, hbehind⟩
  rw [hbehind.server_eq]
  exact serverInv_withReceived hs _

theorem remaining_step {f g : LockedServer} {b : LockedAction} (hf : LockedInv f)
    (hheld : f.mutex ≠ .free) (h : lockedStep f b = some g) :
    g.remaining + (if b.inSection then 1 else 0) ≤ f.remaining := by
  cases hb : b.inSection with
  | true => exact remaining_inSection hb h
  | false =>
      rcases lockedStep_held hheld hb h with ⟨a, t, ha, ht, rfl⟩
      have htable := (outside_of_mayRun hf.serverInv ha ht).table
      simp [LockedServer.remaining, htable]

theorem LockedServer.remaining_pos {f : LockedServer} (hheld : f.mutex ≠ .free) :
    0 < f.remaining := by
  unfold remaining
  split
  · rename_i hfree
    exact absurd hfree hheld
  · exact Nat.succ_pos _
  · exact Nat.succ_pos _
  · exact Nat.succ_pos _
  · exact Nat.succ_pos _
  · exact Nat.succ_pos _

theorem exists_sendTo_some (s : TcpServer) (data : List UInt8) (fd : Nat) {result : SendResult}
    (h : result ≠ .killed) : ∃ t, sendTo data (fun _ => result) s fd = some t := by
  unfold sendTo
  split
  · cases result with
    | taken n => exact ⟨_, rfl⟩
    | failed => exact ⟨_, rfl⟩
    | killed => exact absurd rfl h
  · exact ⟨s, rfl⟩

/-- Whoever holds the mutex has a next step, whatever a `send` that it makes returns. -/
theorem holder_steps {f : LockedServer} (hf : LockedInv f) (hheld : f.mutex ≠ .free)
    {result : SendResult} (hresult : result ≠ .killed) :
    ∃ b g, b.inSection = true ∧ (∀ r, b = .sendNext r → r = result) ∧ lockedStep f b = some g := by
  rcases hf with ⟨s, hs, hbehind⟩
  rcases f with ⟨server, mutex⟩
  cases mutex with
  | free => exact absurd rfl hheld
  | sending data i =>
      by_cases hi : i < server.registered.length
      · rcases exists_sendTo_some server data (server.registered.get ⟨i, hi⟩) hresult with ⟨t, ht⟩
        refine ⟨.sendNext result, ⟨t, .sending data (i + 1)⟩, rfl, by simp [eq_comm], ?_⟩
        simp only [lockedStep]
        rw [dif_pos hi, ht]
        rfl
      · have hstep : ∃ g, lockedStep ⟨server, .sending data i⟩ .unlockSend = some g := by
          simp only [lockedStep]
          rw [if_neg hi]
          exact ⟨_, rfl⟩
        rcases hstep with ⟨g, hg⟩
        exact ⟨.unlockSend, g, rfl, by simp, hg⟩
  | registering =>
      rcases hbehind with ⟨rfl, fd, c, hpc⟩
      have hstep : ∃ t, serverStep server .register = some t := by
        rw [serverStep, hpc]
        by_cases hlen : server.clientFds.len < maxClients
        · exact ⟨_, dif_pos hlen⟩
        · exact ⟨_, dif_neg hlen⟩
      rcases hstep with ⟨t, ht⟩
      refine ⟨.register, ⟨t, .registered⟩, rfl, by simp, ?_⟩
      simp [lockedStep, ht]
  | registered => exact ⟨.unlockRegister, ⟨server, .free⟩, rfl, by simp, by simp [lockedStep]⟩
  | scanning c fd i =>
      have hstep : ∃ g, lockedStep ⟨server, .scanning c fd i⟩ .compare = some g := by
        simp only [lockedStep]
        split
        · split
          · exact ⟨_, rfl⟩
          · exact ⟨_, rfl⟩
        · exact ⟨_, rfl⟩
      rcases hstep with ⟨g, hg⟩
      exact ⟨.compare, g, rfl, by simp, hg⟩
  | scanned c => exact ⟨.unlockRemove, ⟨server, .free⟩, rfl, by simp, rfl⟩

/-- **The mutex is released.**  Whoever holds it can always go on, whatever its next `send`
    returns, and has given it up after twelve steps of its own, however they are interleaved with
    those of the others. -/
theorem mutex_released {isOpen : Nat → Bool} {as : List LockedAction} {f : LockedServer}
    (hrun : run lockedStep (.initial isOpen) as = some f) :
    (f.mutex ≠ .free → ∀ result, result ≠ .killed →
        ∃ b g, b.inSection = true ∧ (∀ r, b = .sendNext r → r = result) ∧
          lockedStep f b = some g) ∧
      ∀ bs g, run lockedStep f bs = some g →
        maxClients + 2 ≤ bs.countP LockedAction.inSection →
          ∃ cs ds h, bs = cs ++ ds ∧ run lockedStep f cs = some h ∧ h.mutex = .free := by
  have hf := lockedInv_run hrun
  refine ⟨fun hheld result => holder_steps hf hheld, fun bs g hbs hcount => ?_⟩
  have hrank : ∀ g b h, LockedInv g → g.mutex ≠ .free → lockedStep g b = some h →
      h.remaining + (if b.inSection then 1 else 0) ≤ g.remaining := fun _ _ _ => remaining_step
  rcases exists_not_busy (fun _ _ _ => lockedInv_step) hrank
    (fun _ => LockedServer.remaining_pos) hf hbs (f.remaining_le.trans hcount) with
    ⟨cs, ds, h, hsplit, hcs, hfree⟩
  exact ⟨cs, ds, h, hsplit, hcs, not_not.mp hfree⟩

-- The accepting thread has a connection in hand and holds the mutex.
def registeringRun : List LockedAction := [.unlocked (.accept 4), .lockRegister]

theorem mutex_released_registering :
    ∃ f, run lockedStep (.initial fun fd => decide (fd < 4)) registeringRun = some f ∧
      f.mutex = .registering ∧
      (f.mutex ≠ .free → ∀ result, result ≠ .killed →
        ∃ b g, b.inSection = true ∧ (∀ r, b = .sendNext r → r = result) ∧
          lockedStep f b = some g) := by
  refine ⟨_, rfl, rfl, ?_⟩
  exact (@mutex_released (fun fd => decide (fd < 4)) registeringRun _ rfl).1

/-! ## A `send` that does not return -/

/-- What holds as long as one `send` in the loop has not returned: nobody gets anything and nobody
    is registered or removed, however many of the clients have gone. -/
structure Stalled (f g : LockedServer) : Prop where
  mutex : g.mutex = f.mutex
  table : g.server.clientFds = f.server.clientFds
  received : g.server.received = f.server.received
  listed : ∀ fd ∈ f.server.registered, g.server.fds fd = f.server.fds fd
  handlers : ∀ c fd, f.server.handlers c = some ⟨fd, .receiving⟩ →
    g.server.handlers c = some ⟨fd, .receiving⟩

-- How many connections have been accepted, with the one that still can be.
def TcpServer.room (s : TcpServer) : Nat :=
  match s.thread with
  | .accepted _ _ => s.conns
  | _ => s.conns + 1

theorem room_unlocked {f : LockedServer} {s t : TcpServer} {a : ServerAction}
    (ha : f.mayRun a = true) (h : serverStep s a = some t) : t.room = s.room := by
  cases serverStep_inv h with
  | accept hpc hfree => simp only [TcpServer.room, hpc]
  | register => cases ha
  | refuse => cases ha
  | create hpc => simp only [TcpServer.room, hpc]
  | createFails hpc => simp only [TcpServer.room, hpc]
  | closeRefused hpc => simp only [TcpServer.room, hpc]
  | remove => cases ha
  | close => rfl
  | send => cases ha
  | openOther => rfl
  | closeOther => rfl

theorem stalled_step {f g h : LockedServer} {b : LockedAction} (hg : LockedInv g)
    (hstalled : Stalled f g) (hheld : f.mutex ≠ .free) (hb : b.inSection = false)
    (hstep : lockedStep g b = some h) : Stalled f h ∧ h.server.room = g.server.room := by
  have hheld' : g.mutex ≠ .free := by rwa [hstalled.mutex]
  rcases lockedStep_held hheld' hb hstep with ⟨a, t, ha, ht, rfl⟩
  have hout := outside_of_mayRun hg.serverInv ha ht
  have htable : g.server.registered = f.server.registered :=
    congrArg FixedBuffer.contents hstalled.table
  refine ⟨⟨hstalled.mutex, hout.table.trans hstalled.table,
    hout.received.trans hstalled.received, fun fd hfd => ?_, fun c fd hh => ?_⟩,
    room_unlocked ha ht⟩
  · exact (hout.listed fd (by rwa [htable])).trans (hstalled.listed fd hfd)
  · have hkept := hstalled.handlers c fd hh
    exact (hout.receiving c fd hkept).trans hkept

/-- In a loop of sends the only steps of the holder are the next `send` and the unlocking. -/
theorem inSection_of_sending {f g : LockedServer} {b : LockedAction} {data : List UInt8} {i : Nat}
    (hm : f.mutex = .sending data i) (hnext : ∀ result, b ≠ .sendNext result)
    (hunlock : b ≠ .unlockSend) (h : lockedStep f b = some g) : b.inSection = false := by
  cases lockedStep_inv h with
  | sendNext => exact absurd rfl (hnext _)
  | unlockSend => exact absurd rfl hunlock
  | lockSend => rfl
  | lockRegister => rfl
  | lockRemove => rfl
  | unlocked => rfl
  | _ => cases hm

theorem TcpServer.conns_le_room (s : TcpServer) : s.conns ≤ s.room ∧ s.room ≤ s.conns + 1 := by
  unfold room
  split
  · exact ⟨Nat.le_refl _, Nat.le_succ _⟩
  · exact ⟨Nat.le_succ _, Nat.le_refl _⟩

end NodeBridge
