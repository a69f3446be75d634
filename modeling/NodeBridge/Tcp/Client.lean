import NodeBridge.Tcp.Server

/-!
# The TCP client

`tcp_client_thread`, `tcp_client_stop` and `tcp_client_send` around `client_fd` and the kernel's
descriptor table.  What runs under `client_lock` is one action.  The thread reads `client_fd`
without the lock before its `close` on the two failure paths, so that load and that `close` are two
actions.
-/

open Reasoning

namespace NodeBridge

/-- What an open descriptor stands for: a socket of `tcp_client_thread`, or anything else. -/
inductive ClientDescriptor where
  | socket (k : Nat) -- the `k`-th that `tcp_client_thread` created
  | other
deriving DecidableEq

-- Where `tcp_client_thread` stands in its loop.
inductive ClientPc where
  | creating
  | created
  | resolving
  | connecting
  | failed -- `close(client_fd); return NULL;` comes next
  | closing (fd : Int) -- `client_fd` is loaded, `close(fd)` comes next
  | receiving
  | ended -- the locked `close` comes next
  | sleeping
  | returned
deriving DecidableEq

-- What `send` and `close` were called on through `client_fd`: history, for the statements only.
inductive ClientEvent where
  | sent (on : Option ClientDescriptor) (taken : List UInt8)
  | closed (on : Option ClientDescriptor)
deriving DecidableEq

def ClientEvent.on : ClientEvent → Option ClientDescriptor
  | .sent on _ => on
  | .closed on => on

structure TcpClient where
  clientFd : Int
  pc : ClientPc
  fds : Nat → Option ClientDescriptor
  created : Nat
  log : List ClientEvent

namespace TcpClient

def initial (isOpen : Nat → Bool) : TcpClient where
  clientFd := -1
  pc := .creating
  fds := fun fd => if isOpen fd then some .other else none
  created := 0
  log := []

-- What the number `fd` stands for; a negative one is no descriptor.
def descriptor (s : TcpClient) (fd : Int) : Option ClientDescriptor :=
  if 0 ≤ fd then s.fds fd.toNat else none

-- `close(fd)`, which fails on a negative number.
def close (s : TcpClient) (fd : Int) : TcpClient :=
  if 0 ≤ fd then
    { s with
      fds := Function.update s.fds fd.toNat none
      log := s.log ++ [.closed (s.fds fd.toNat)] }
  else s

end TcpClient

/-- `tcp_client_send` and the `int` it returns; `result` is what `send` gives on an open descriptor.
    On a closed one it fails whatever `result` is. -/
def tcpClientSend (s : TcpClient) (data : List UInt8) (result : SendResult) :
    Option (TcpClient × Int) :=
  if 0 ≤ s.clientFd then
    match s.descriptor s.clientFd, result with
    | none, _ => some ({ s with log := s.log ++ [.sent none []] }, -1)
    | some on, .taken n =>
        some ({ s with log := s.log ++ [.sent (some on) (data.take n)] }, (data.take n).length)
    | some on, .failed => some ({ s with log := s.log ++ [.sent (some on) []] }, -1)
    | some _, .killed => none
  else some (s, 0)

def tcpClientStop (s : TcpClient) : TcpClient :=
  if 0 ≤ s.clientFd then { s.close s.clientFd with clientFd := -1 } else s

inductive ClientAction where
  | socket (fd : Option Nat)
  | checkSocket
  | inetPton (accepted : Bool)
  | connect (connected : Bool)
  | loadFd
  | closeLoaded
  | recv (n : Int)
  | closeEnded
  | sleep
  | stop
  | send (data : List UInt8) (result : SendResult)
  | openOther (fd : Nat)
  | closeOther (fd : Nat)
deriving DecidableEq

/-- One action; `none` when the thread is not there or the kernel cannot give that number. -/
def clientStep (s : TcpClient) : ClientAction → Option TcpClient
  | .socket none =>
      if s.pc = .creating then some { s with clientFd := -1, pc := .created } else none
  | .socket (some fd) =>
      if s.pc = .creating ∧ s.fds fd = none then
        some { s with
          clientFd := fd
          pc := .created
          fds := Function.update s.fds fd (some (.socket s.created))
          created := s.created + 1 }
      else none
  | .checkSocket =>
      if s.pc = .created then
        some { s with pc := if s.clientFd < 0 then .returned else .resolving }
      else none
  | .inetPton accepted =>
      if s.pc = .resolving then
        some { s with pc := if accepted then .connecting else .failed }
      else none
  | .connect connected =>
      if s.pc = .connecting then
        some { s with pc := if connected then .receiving else .failed }
      else none
  | .loadFd => if s.pc = .failed then some { s with pc := .closing s.clientFd } else none
  | .closeLoaded =>
      match s.pc with
      | .closing fd => some { s.close fd with pc := .returned }
      | _ => none
  | .recv n =>
      if s.pc = .receiving then some { s with pc := if n ≤ 0 then .ended else .receiving }
      else none
  | .closeEnded =>
      if s.pc = .ended then some { s.close s.clientFd with clientFd := -1, pc := .sleeping }
      else none
  | .sleep => if s.pc = .sleeping then some { s with pc := .creating } else none
  | .stop => some (tcpClientStop s)
  | .send data result => (tcpClientSend s data result).map Prod.fst
  | .openOther fd =>
      if s.fds fd = none then some { s with fds := Function.update s.fds fd (some .other) }
      else none
  | .closeOther fd =>
      if s.fds fd = some .other then some { s with fds := Function.update s.fds fd none } else none

/-! ## Whose descriptor `client_fd` is -/

def OwnSocket : Option ClientDescriptor → Prop
  | some (.socket _) => True
  | _ => False

/-- `client_fd`, unless negative, names an open socket of the thread, and so did every descriptor
    that was sent to or closed through it. -/
structure OwnsClientFd (s : TcpClient) : Prop where
  current : 0 ≤ s.clientFd → OwnSocket (s.descriptor s.clientFd)
  past : ∀ e ∈ s.log, OwnSocket e.on

-- Not the unlocked `close` of a descriptor on the failure paths.
def KeepsClientFd (s : TcpClient) (a : ClientAction) : Prop :=
  a = .closeLoaded → ∀ fd, s.pc = .closing fd → fd < 0

@[grind cases]
structure ClientInv (s : TcpClient) : Prop where
  current : 0 ≤ s.clientFd → OwnSocket (s.descriptor s.clientFd)
  past : ∀ e ∈ s.log, OwnSocket e.on
  only : ∀ fd k, s.fds fd = some (.socket k) → s.clientFd = fd
  between : s.pc = .creating ∨ s.pc = .sleeping → s.clientFd = -1
  loaded : ∀ fd, s.pc = .closing fd → s.clientFd = fd ∨ s.clientFd = -1

theorem clientInv_initial (isOpen : Nat → Bool) : ClientInv (.initial isOpen) := by
  constructor <;> intros <;> simp_all [TcpClient.initial]

-- A send adds one event, on what `client_fd` stands for.
theorem tcpClientSend_frame {s t : TcpClient} {data : List UInt8} {result : SendResult} {n : Int}
    (h : tcpClientSend s data result = some (t, n)) :
    t = s ∨ 0 ≤ s.clientFd ∧
      ∃ taken, t = { s with log := s.log ++ [.sent (s.descriptor s.clientFd) taken] } := by
  unfold tcpClientSend at h
  split at h
  · rename_i hfd
    right
    cases hon : s.descriptor s.clientFd with
    | none =>
        rw [hon] at h
        cases h
        exact ⟨hfd, [], rfl⟩
    | some on =>
        rw [hon] at h
        cases result with
        | taken k =>
            cases h
            exact ⟨hfd, data.take k, rfl⟩
        | failed =>
            cases h
            exact ⟨hfd, [], rfl⟩
        | killed => cases h
  · cases h
    exact .inl rfl

-- `close(client_fd); client_fd = -1;`
theorem ClientInv.closeCurrent {s : TcpClient} (hs : ClientInv s) {pc : ClientPc}
    (_ : ∀ fd, pc = .closing fd → s.pc = .closing fd) :
    ClientInv { s.close s.clientFd with clientFd := -1, pc := pc } := by
  by_cases hfd : 0 ≤ s.clientFd
  · have hown := hs.current hfd
    rw [TcpClient.descriptor, if_pos hfd] at hown
    rw [TcpClient.close, if_pos hfd]
    constructor <;> grind [ClientEvent.on, Function.update_apply]
  · rw [TcpClient.close, if_neg hfd]
    constructor <;> grind

-- Other threads open and close descriptors that are not sockets of this one.
theorem ClientInv.updateOther {s : TcpClient} (hs : ClientInv s) {fd : Nat}
    {d : Option ClientDescriptor} (hfd : ∀ k, s.fds fd ≠ some (.socket k))
    (hd : ∀ k, d ≠ some (.socket k)) :
    ClientInv { s with fds := Function.update s.fds fd d } := by
  have hkeep : 0 ≤ s.clientFd → s.clientFd.toNat ≠ fd := by
    intro h0 heq
    have hown := hs.current h0
    rw [TcpClient.descriptor, if_pos h0, heq] at hown
    cases hk : s.fds fd with
    | none => rw [hk] at hown; exact hown
    | some e =>
        rw [hk] at hown
        cases e with
        | socket k => exact hfd k hk
        | other => exact hown
  refine ⟨fun h0 => ?_, hs.past, ?_, hs.between, hs.loaded⟩
  · have hown := hs.current h0
    simp only [TcpClient.descriptor, if_pos h0, Function.update_of_ne (hkeep h0)] at hown ⊢
    exact hown
  · grind [Function.update_apply]

theorem clientInv_step {s t : TcpClient} {a : ClientAction} (hs : ClientInv s)
    (ha : KeepsClientFd s a) (h : clientStep s a = some t) : ClientInv t := by
  cases a with
  | socket fd =>
      cases fd with
      | none =>
          simp only [clientStep, Option.ite_none_right_eq_some, Option.some.injEq] at h
          rcases h with ⟨hpc, rfl⟩
          constructor <;> grind
      | some fd =>
          simp only [clientStep, Option.ite_none_right_eq_some, Option.some.injEq] at h
          rcases h with ⟨⟨hpc, hfree⟩, rfl⟩
          constructor <;> grind [TcpClient.descriptor, Function.update_apply, OwnSocket]
  | closeLoaded =>
      simp only [clientStep] at h
      split at h
      · rename_i fd hpc
        -- the number is negative, and closing it does nothing
        have hneg := ha rfl fd hpc
        rw [TcpClient.close, if_neg (by omega)] at h
        cases h
        exact ⟨hs.current, hs.past, hs.only, by simp, by simp⟩
      · cases h
  | closeEnded =>
      simp only [clientStep, Option.ite_none_right_eq_some, Option.some.injEq] at h
      rcases h with ⟨-, rfl⟩
      exact hs.closeCurrent (by simp)
  | stop =>
      simp only [clientStep, tcpClientStop, Option.some.injEq] at h
      split at h
      · subst h
        have hpc : (s.close s.clientFd).pc = s.pc := by
          unfold TcpClient.close
          split <;> rfl
        have hclosed := @ClientInv.closeCurrent s hs s.pc fun _ => id
        rwa [← hpc] at hclosed
      · subst h
        exact hs
  | send data result =>
      rcases Option.map_eq_some_iff.mp h with ⟨⟨u, n⟩, hsend, rfl⟩
      rcases tcpClientSend_frame hsend with rfl | ⟨hfd, taken, rfl⟩
      · exact hs
      · refine ⟨hs.current, fun e he => ?_, hs.only, hs.between, hs.loaded⟩
        rcases List.mem_append.mp he with hold | hnew
        · exact hs.past e hold
        · rw [List.mem_singleton.mp hnew]
          exact hs.current hfd
  | openOther fd =>
      simp only [clientStep, Option.ite_none_right_eq_some, Option.some.injEq] at h
      rcases h with ⟨hfree, rfl⟩
      exact hs.updateOther (by simp [hfree]) (by simp)
  | closeOther fd =>
      simp only [clientStep, Option.ite_none_right_eq_some, Option.some.injEq] at h
      rcases h with ⟨hother, rfl⟩
      exact hs.updateOther (by simp [hother]) (by simp)
  | _ =>
      -- only the program counter moves
      simp only [clientStep, Option.ite_none_right_eq_some, Option.some.injEq] at h
      rcases h with ⟨hpc, rfl⟩
      constructor <;> grind [TcpClient.descriptor]

theorem not_ownsClientFd_of_close {s t : TcpClient} {a : ClientAction} (hs : ClientInv s)
    (ha : ¬ KeepsClientFd s a) (h : clientStep s a = some t) : ¬ OwnsClientFd t := by
  simp only [KeepsClientFd, not_forall, not_lt] at ha
  rcases ha with ⟨rfl, fd, hpc, hfd⟩
  simp only [clientStep, hpc, Option.some.injEq] at h
  rw [TcpClient.close, if_pos hfd] at h
  subst h
  intro hgood
  rcases hs.loaded fd hpc with hcur | hreset
  · -- `client_fd` still has the number that has just been closed
    have hown := hgood.current (by rw [hcur]; exact hfd)
    simp [TcpClient.descriptor, hcur, hfd, OwnSocket] at hown
  · -- `tcp_client_stop` has closed it before, so this is a second `close`
    have hown := hgood.past (.closed (s.fds fd.toNat)) (by simp)
    have honly := hs.only fd.toNat
    rw [hreset] at honly
    cases hk : s.fds fd.toNat with
    | none => rw [ClientEvent.on, hk] at hown; exact hown
    | some e =>
        rw [ClientEvent.on, hk] at hown
        cases e with
        | socket k => exact absurd (honly k hk) (by omega)
        | other => exact hown

/-- In every state up to the end of a run the thread owns what `client_fd` names, and has owned
    all that was sent to or closed through it, exactly when no step of the run is the unlocked
    `close` of a descriptor on the failure paths. -/
theorem clientFd_owned_iff {isOpen : Nat → Bool} {as : List ClientAction} {s : TcpClient}
    (hrun : run clientStep (.initial isOpen) as = some s) :
    (∀ bs t, bs <+: as → run clientStep (.initial isOpen) bs = some t → OwnsClientFd t) ↔
      Along clientStep KeepsClientFd (.initial isOpen) as := by
  rw [← throughout_iff_prefix]
  exact throughout_iff_along (fun u (hu : ClientInv u) => ⟨hu.current, hu.past⟩)
    (fun u a v hu ha hv => clientInv_step hu ha hv)
    (fun u a v hu ha hv => not_ownsClientFd_of_close hu ha hv) (clientInv_initial isOpen) hrun

-- The server refuses the connection, and the number is given out again.
def refusedRun : List ClientAction :=
  [.socket (some 4), .checkSocket, .inetPton true, .connect false, .loadFd, .closeLoaded,
    .openOther 4, .send [1] (.taken 1)]

/-- The block of the last step goes to the descriptor that another thread has opened. -/
theorem clientFd_stale_after_refusal :
    ∃ s, run clientStep (.initial fun _ => false) refusedRun = some s ∧ s.clientFd = 4 ∧
      s.descriptor s.clientFd = some .other ∧ .sent (some .other) [1] ∈ s.log ∧
      ¬ OwnsClientFd s := by
  have hfinal : ((run clientStep (.initial fun _ => false) refusedRun).map fun s =>
      (s.clientFd, s.descriptor s.clientFd, s.log)) =
      some (4, some .other, [.closed (some (.socket 0)), .sent (some .other) [1]]) := by
    decide +kernel
  rcases Option.map_eq_some_iff.mp hfinal with ⟨s, hrun, hs⟩
  simp only [Prod.mk.injEq] at hs
  rcases hs with ⟨hfd, hon, hlog⟩
  refine ⟨s, hrun, hfd, hon, by simp [hlog], fun hgood => ?_⟩
  have hown := hgood.current (by omega)
  rw [hon] at hown
  exact hown

-- Connected, one block sent, closed by the server.
def servedRun : List ClientAction :=
  [.socket (some 4), .checkSocket, .inetPton true, .connect true, .send [1] (.taken 1), .recv 0,
    .closeEnded]

theorem clientFd_owned_iff_served :
    (∀ bs t, bs <+: servedRun → run clientStep (.initial fun _ => false) bs = some t →
        OwnsClientFd t) ↔
      Along clientStep KeepsClientFd (.initial fun _ => false) servedRun := by
  have hsome : (run clientStep (.initial fun _ => false) servedRun).isSome = true := by
    decide +kernel
  rcases Option.isSome_iff_exists.mp hsome with ⟨s, hrun⟩
  exact clientFd_owned_iff hrun

end NodeBridge
