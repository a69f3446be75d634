import NodeBridge.Tcp.Client

/-!
# Whether the client goes on

After a lost connection `tcp_client_thread` closes its socket, sleeps and starts over.  After a
failed `connect` it closes its socket and returns, although the address is good and the next try
might succeed.
-/

open Reasoning

namespace NodeBridge

-- Calls of `tcp_client_send`, and what other threads do with descriptors.
def ClientAction.OfOthers : ClientAction → Prop
  | .send _ _ | .openOther _ | .closeOther _ => True
  | _ => False

def ClientAction.OfThread : ClientAction → Prop
  | .send _ _ | .openOther _ | .closeOther _ | .stop => False
  | _ => True

/-- `socket` succeeds, `inet_pton` accepts the host, and nobody calls `tcp_client_stop`. -/
def ClientAction.Expected : ClientAction → Prop
  | .socket none | .inetPton false | .stop => False
  | _ => True

-- A failed `connect`, or a `recv` that finds the connection closed or broken.
def ClientAction.LosesConnection : ClientAction → Prop
  | .connect false => True
  | .recv n => n ≤ 0
  | _ => False

/-- In `n` steps of its own, whatever others do between them and whatever its calls return, the
    thread is where it creates a socket, with `client_fd = -1`. -/
def BackIn : Nat → TcpClient → Prop
  | 0, s => s.pc = .creating ∧ s.clientFd = -1
  | n + 1, s => ∀ os t, (∀ a ∈ os, a.OfOthers) → run clientStep s os = some t →
      (∃ a u, a.OfThread ∧ clientStep t a = some u) ∧
        ∀ a u, a.OfThread → clientStep t a = some u → BackIn n u

/-- In every state of the run the thread is in its outer loop, and every failed or lost connection
    leads back to the creation of a socket. -/
structure Reconnects (isOpen : Nat → Bool) (as : List ClientAction) : Prop where
  stays : ∀ bs t, bs <+: as → run clientStep (.initial isOpen) bs = some t → t.pc ≠ .returned
  back : ∀ bs a t, bs ++ [a] <+: as → a.LosesConnection →
    run clientStep (.initial isOpen) (bs ++ [a]) = some t → ∃ n, BackIn n t

/-! ## Where the thread makes which step -/

-- The point of the loop at which the thread makes the step.
def ClientAction.At : ClientAction → ClientPc → Prop
  | .socket _, pc => pc = .creating
  | .checkSocket, pc => pc = .created
  | .inetPton _, pc => pc = .resolving
  | .connect _, pc => pc = .connecting
  | .loadFd, pc => pc = .failed
  | .closeLoaded, pc => ∃ fd, pc = .closing fd
  | .recv _, pc => pc = .receiving
  | .closeEnded, pc => pc = .ended
  | .sleep, pc => pc = .sleeping
  | _, _ => False

theorem at_of_threadStep {s t : TcpClient} {a : ClientAction} (ha : a.OfThread)
    (h : clientStep s a = some t) : a.At s.pc := by
  cases a with
  | socket fd =>
      cases fd with
      | none =>
          simp only [clientStep, Option.ite_none_right_eq_some] at h
          exact h.1
      | some fd =>
          simp only [clientStep, Option.ite_none_right_eq_some] at h
          exact h.1.1
  | closeLoaded =>
      simp only [clientStep] at h
      split at h
      · rename_i fd hpc
        exact ⟨fd, hpc⟩
      · cases h
  | send _ _ => exact ha.elim
  | openOther _ => exact ha.elim
  | closeOther _ => exact ha.elim
  | stop => exact ha.elim
  | _ =>
      simp only [clientStep, Option.ite_none_right_eq_some] at h
      exact h.1

/-! ## What others cannot change -/

theorem others_step {s t : TcpClient} {a : ClientAction} (ha : a.OfOthers)
    (h : clientStep s a = some t) : t.pc = s.pc ∧ t.clientFd = s.clientFd := by
  cases a with
  | send data result =>
      rcases Option.map_eq_some_iff.mp h with ⟨⟨u, n⟩, hsend, rfl⟩
      rcases tcpClientSend_frame hsend with rfl | ⟨-, taken, rfl⟩
      · exact ⟨rfl, rfl⟩
      · exact ⟨rfl, rfl⟩
  | openOther fd =>
      simp only [clientStep, Option.ite_none_right_eq_some, Option.some.injEq] at h
      rcases h with ⟨-, rfl⟩
      exact ⟨rfl, rfl⟩
  | closeOther fd =>
      simp only [clientStep, Option.ite_none_right_eq_some, Option.some.injEq] at h
      rcases h with ⟨-, rfl⟩
      exact ⟨rfl, rfl⟩
  | _ => exact ha.elim

theorem others_run {s t : TcpClient} {os : List ClientAction} (hos : ∀ a ∈ os, a.OfOthers)
    (h : run clientStep s os = some t) : t.pc = s.pc ∧ t.clientFd = s.clientFd := by
  induction os generalizing s with
  | nil =>
      cases h
      exact ⟨rfl, rfl⟩
  | cons a os ih =>
      rcases run_cons_eq_some.mp h with ⟨u, hu, hrest⟩
      have hone := others_step (hos a (by simp)) hu
      have hlater := ih (fun b hb => hos b (by simp [hb])) hrest
      exact ⟨hlater.1.trans hone.1, hlater.2.trans hone.2⟩

/-! ## After a lost connection -/

theorem backIn_sleeping {s : TcpClient} (hpc : s.pc = .sleeping) (hfd : s.clientFd = -1) :
    BackIn 1 s := by
  intro os t hos hrun
  have hframe := others_run hos hrun
  rw [hpc, hfd] at hframe
  constructor
  · exact ⟨.sleep, { t with pc := .creating }, trivial, if_pos hframe.1⟩
  · intro a u ha hu
    have hat := at_of_threadStep ha hu
    cases a with
    | sleep =>
        rw [clientStep, if_pos hframe.1] at hu
        cases hu
        exact ⟨rfl, hframe.2⟩
    | _ => simp [ClientAction.At, hframe.1] at hat

theorem backIn_ended {s : TcpClient} (hpc : s.pc = .ended) : BackIn 2 s := by
  intro os t hos hrun
  have hframe := others_run hos hrun
  rw [hpc] at hframe
  constructor
  · exact ⟨.closeEnded, _, trivial, if_pos hframe.1⟩
  · intro a u ha hu
    have hat := at_of_threadStep ha hu
    cases a with
    | closeEnded =>
        rw [clientStep, if_pos hframe.1] at hu
        cases hu
        exact backIn_sleeping rfl rfl
    | _ => simp [ClientAction.At, hframe.1] at hat

/-! ## After a failed `connect` -/

theorem not_backIn_returned {s : TcpClient} (hpc : s.pc = .returned) (n : Nat) : ¬ BackIn n s := by
  intro h
  cases n with
  | zero =>
      rw [BackIn, hpc] at h
      cases h.1
  | succ n =>
      rcases (h [] s (by simp) rfl).1 with ⟨a, u, ha, hu⟩
      have hat := at_of_threadStep ha hu
      cases a <;> simp [ClientAction.At, hpc] at hat

theorem not_backIn_closing {s : TcpClient} {fd : Int} (hpc : s.pc = .closing fd) (n : Nat) :
    ¬ BackIn n s := by
  intro h
  cases n with
  | zero =>
      rw [BackIn, hpc] at h
      cases h.1
  | succ n =>
      have hclose : clientStep s .closeLoaded = some { s.close fd with pc := .returned } := by
        rw [clientStep, hpc]
      exact not_backIn_returned rfl n ((h [] s (by simp) rfl).2 .closeLoaded _ trivial hclose)

theorem not_backIn_failed {s : TcpClient} (hpc : s.pc = .failed) (n : Nat) : ¬ BackIn n s := by
  intro h
  cases n with
  | zero =>
      rw [BackIn, hpc] at h
      cases h.1
  | succ n =>
      have hload : clientStep s .loadFd = some { s with pc := .closing s.clientFd } := if_pos hpc
      exact not_backIn_closing rfl n ((h [] s (by simp) rfl).2 .loadFd _ trivial hload)

/-! ## Runs without a failed `connect` -/

-- On no way out of the outer loop; the test of `client_fd` will be passed.
structure InLoop (s : TcpClient) : Prop where
  pc : s.pc ≠ .failed ∧ s.pc ≠ .returned ∧ ∀ fd, s.pc ≠ .closing fd
  created : s.pc = .created → 0 ≤ s.clientFd

theorem inLoop_initial (isOpen : Nat → Bool) : InLoop (.initial isOpen) := by
  constructor <;> simp [TcpClient.initial]

theorem inLoop_step {s t : TcpClient} {a : ClientAction} (hs : InLoop s) (ha : a.Expected)
    (hconnect : a ≠ .connect false) (h : clientStep s a = some t) : InLoop t := by
  rcases hs with ⟨⟨hfailed, hreturned, hclosing⟩, hcreated⟩
  cases a with
  | send data result =>
      have hframe := @others_step s t (.send data result) trivial h
      constructor <;> rw [hframe.1]
      · exact ⟨hfailed, hreturned, hclosing⟩
      · rw [hframe.2]
        exact hcreated
  | socket fd =>
      cases fd with
      | none => exact ha.elim
      | some fd =>
          simp only [clientStep, Option.ite_none_right_eq_some, Option.some.injEq] at h
          rcases h with ⟨-, rfl⟩
          constructor <;> simp
  | closeLoaded =>
      rcases @at_of_threadStep s t .closeLoaded trivial h with ⟨fd, hpc⟩
      exact absurd hpc (hclosing fd)
  | stop => exact ha.elim
  | inetPton accepted =>
      cases accepted with
      | false => exact ha.elim
      | true =>
          simp only [clientStep, Option.ite_none_right_eq_some, Option.some.injEq] at h
          rcases h with ⟨-, rfl⟩
          constructor <;> simp
  | connect connected =>
      cases connected with
      | false => exact absurd rfl hconnect
      | true =>
          simp only [clientStep, Option.ite_none_right_eq_some, Option.some.injEq] at h
          rcases h with ⟨-, rfl⟩
          constructor <;> simp
  | _ =>
      simp only [clientStep, Option.ite_none_right_eq_some, Option.some.injEq] at h
      rcases h with ⟨hpc, rfl⟩
      constructor <;> grind

theorem inLoop_run {isOpen : Nat → Bool} {as : List ClientAction} {s : TcpClient}
    (hexpected : ∀ a ∈ as, a.Expected) (hconnect : .connect false ∉ as)
    (hrun : run clientStep (.initial isOpen) as = some s) : InLoop s := by
  have hok : Along clientStep (fun _ a => a.Expected ∧ a ≠ .connect false) (.initial isOpen) as :=
    along_of_forall (fun _ a ha => ⟨hexpected a ha, fun he => hconnect (he ▸ ha)⟩) _
  exact along_invariant (fun u a v hu ha hv => inLoop_step hu ha.1 ha.2 hv)
    (inLoop_initial isOpen) hok hrun

-- The state before the last action of a run.
theorem run_concat {s t : TcpClient} {bs : List ClientAction} {a : ClientAction}
    (h : run clientStep s (bs ++ [a]) = some t) :
    ∃ u, run clientStep s bs = some u ∧ clientStep u a = some t := by
  rw [run_append, Option.bind_eq_some_iff] at h
  rcases h with ⟨u, hu, hlast⟩
  rcases run_cons_eq_some.mp hlast with ⟨v, hv, hnil⟩
  cases hnil
  exact ⟨u, hu, hv⟩

/-- **Reconnecting.**  With a host that `inet_pton` accepts and sockets to be had, the thread never
    gives up in a run exactly when no `connect` of the run fails. -/
theorem tcpClient_reconnects_iff {isOpen : Nat → Bool} {as : List ClientAction} {s : TcpClient}
    (hexpected : ∀ a ∈ as, a.Expected)
    (hrun : run clientStep (.initial isOpen) as = some s) :
    Reconnects isOpen as ↔ .connect false ∉ as := by
  constructor
  · intro hback hmem
    rcases List.append_of_mem hmem with ⟨bs, cs, rfl⟩
    rw [List.append_cons, run_append, Option.bind_eq_some_iff] at hrun
    rcases hrun with ⟨t, ht, -⟩
    rcases run_concat ht with ⟨u, -, hstep⟩
    simp only [clientStep, Option.ite_none_right_eq_some, Option.some.injEq] at hstep
    rcases hstep with ⟨-, rfl⟩
    have hpre : bs ++ [.connect false] <+: bs ++ .connect false :: cs := by simp
    rcases hback.back bs _ _ hpre trivial ht with ⟨n, hn⟩
    exact not_backIn_failed rfl n hn
  · intro hconnect
    constructor
    · intro bs t hpre ht
      have hloop := inLoop_run (fun a ha => hexpected a (hpre.subset ha))
        (fun hmem => hconnect (hpre.subset hmem)) ht
      exact hloop.pc.2.1
    · intro bs a t hpre hloses ht
      have hmem : a ∈ as := hpre.subset (by simp)
      rcases run_concat ht with ⟨u, -, hstep⟩
      cases a with
      | connect connected =>
          cases connected with
          | false => exact absurd hmem hconnect
          | true => exact hloses.elim
      | recv n =>
          simp only [clientStep, Option.ite_none_right_eq_some, Option.some.injEq] at hstep
          rcases hstep with ⟨-, rfl⟩
          exact ⟨2, backIn_ended (if_pos hloses)⟩
      | _ => exact hloses.elim

-- The server closes the connection, and the client connects again.
def reconnectRun : List ClientAction :=
  [.socket (some 4), .checkSocket, .inetPton true, .connect true, .send [1] (.taken 1), .recv 0,
    .closeEnded, .sleep, .socket (some 4), .checkSocket, .inetPton true, .connect true]

theorem tcpClient_reconnects_iff_reconnect :
    Reconnects (fun _ => false) reconnectRun ↔ .connect false ∉ reconnectRun := by
  have hsome : (run clientStep (.initial fun _ => false) reconnectRun).isSome = true := by
    decide +kernel
  rcases Option.isSome_iff_exists.mp hsome with ⟨s, hrun⟩
  exact tcpClient_reconnects_iff (by simp [reconnectRun, ClientAction.Expected]) hrun

-- The server is not up yet when the client starts.
def serverDownRun : List ClientAction :=
  [.socket (some 4), .checkSocket, .inetPton true, .connect false, .loadFd, .closeLoaded]

/-- One refused connection ends the thread for good. -/
theorem tcpClient_gives_up :
    (run clientStep (.initial fun _ => false) serverDownRun).map TcpClient.pc = some .returned ∧
      ¬ Reconnects (fun _ => false) serverDownRun := by
  have hpc : (run clientStep (.initial fun _ => false) serverDownRun).map TcpClient.pc =
      some .returned := by decide +kernel
  refine ⟨hpc, fun h => ?_⟩
  rcases Option.map_eq_some_iff.mp hpc with ⟨s, hrun, hs⟩
  exact h.stays serverDownRun s (List.prefix_refl _) hrun hs

end NodeBridge
