import Mathlib.Data.List.Perm.Basic
import NodeBridge.Reasoning.Shell

/-!
# Only quotable text can be quoted

The bytes that the lexer keeps are counted.  A command that is read as it was meant has lost no
single quote, backslash or hash, so that no double quote was read as text and no backslash escaped
anything: every quoted text is quotable.
-/

namespace Reasoning.Shell

/-! ## What the lexer takes away -/

-- The bytes read and kept, a backslash still to be decided on included.
def LexState.kept (st : LexState) : List UInt8 :=
  st.tokens.flatMap Token.bytes ++ st.cur.getD [] ++
    match st.mode with
    | .escape _ => [92]
    | _ => []

theorem kept_endWord (st : LexState) : st.endWord.kept = st.kept := by
  unfold LexState.endWord LexState.kept
  cases hcur : st.cur <;> simp [hcur, Token.bytes]

theorem kept_redirectTo (st : LexState) : (redirectTo st).kept = st.kept := by
  unfold redirectTo
  split
  · simp [LexState.kept, Token.bytes]
  · rw [← kept_endWord st]
    simp [LexState.kept, Token.bytes]

theorem kept_of_not_escape {st : LexState} (h : ∀ b, st.mode ≠ .escape b) :
    st.kept = st.tokens.flatMap Token.bytes ++ st.cur.getD [] := by
  unfold LexState.kept
  split
  · rename_i b hb
    exact absurd hb (h b)
  · rw [List.append_nil]

theorem kept_of_escape {st : LexState} {b : Bool} (h : st.mode = .escape b) :
    st.kept = st.tokens.flatMap Token.bytes ++ st.cur.getD [] ++ [92] := by
  rw [LexState.kept, h]

-- Neither a single-quoted text nor a comment has begun.
def Mode.Tracked (m : Mode) : Prop := m ≠ .squote ∧ m ≠ .comment

/-- What one step does to the bytes kept. -/
inductive LexEffect (st u : LexState) (c : UInt8) : Prop where
  | keep (h : u.kept = st.kept ++ [c]) (hmode : st.mode.Tracked → u.mode.Tracked ∧ c ≠ 34)
  | delimit (h : u.kept = st.kept) (hmode : st.mode.Tracked → u.mode.Tracked ∨ c = 39 ∨ c = 35)
  | unescape (k : List UInt8) (hmode : ∃ b, st.mode = .escape b) (hst : st.kept = k ++ [92])
      (h : u.kept = k ++ [c] ∨ u.kept = k)

theorem lexPlain_effect {st u : LexState} {c : UInt8} (hmode : st.mode = .plain)
    (h : lexPlain st c = some u) : LexEffect st u c := by
  have hkept := @kept_of_not_escape st (by simp [hmode])
  unfold lexPlain at h
  split_ifs at h with hblank hquote hsingle hslash hgreater hhash
  · cases h
    exact .delimit (kept_endWord st) fun _ => .inl (by simp [endWord_mode, hmode, Mode.Tracked])
  · cases h
    exact .delimit (by simp [LexState.kept, LexState.put, hmode])
      fun _ => .inl (by simp [Mode.Tracked])
  · cases h
    exact .delimit (by simp [LexState.kept, LexState.put, hmode]) fun _ => .inr (.inl hsingle)
  · cases h
    refine .keep ?_ fun _ => ⟨by simp [Mode.Tracked], hquote⟩
    rw [hkept, hslash]
    rfl
  · cases h
    exact .delimit (kept_redirectTo st)
      fun _ => .inl (by simp [redirectTo_mode, hmode, Mode.Tracked])
  · cases h
    refine .delimit ?_ fun _ => .inr (.inr hhash.1)
    rw [hkept]
    exact List.append_nil _
  · cases h
    refine .keep ?_ fun htracked => ⟨htracked, hquote⟩
    simp [LexState.kept, LexState.put, hmode]

theorem lexDquote_effect {st u : LexState} {c : UInt8} (hmode : st.mode = .dquote)
    (h : lexDquote st c = some u) : LexEffect st u c := by
  have hkept := @kept_of_not_escape st (by simp [hmode])
  unfold lexDquote at h
  split_ifs at h with hquote hexpand hslash
  · cases h
    refine .delimit ?_ fun _ => .inl (by simp [Mode.Tracked])
    rw [hkept]
    exact List.append_nil _
  · cases h
    refine .keep ?_ fun _ => ⟨by simp [Mode.Tracked], hquote⟩
    rw [hkept, hslash]
    rfl
  · cases h
    refine .keep ?_ fun htracked => ⟨htracked, hquote⟩
    simp [LexState.kept, LexState.put, hmode]

theorem lexStep_effect {st u : LexState} {c : UInt8} (h : lexStep st c = some u) :
    LexEffect st u c := by
  unfold lexStep at h
  split at h
  · rename_i hmode
    exact lexPlain_effect hmode h
  · rename_i hmode
    exact lexDquote_effect hmode h
  · rename_i hmode
    split_ifs at h with hsingle
    · cases h
      exact .delimit (by simp [LexState.kept, hmode]) fun ht => absurd hmode ht.1
    · cases h
      exact .keep (by simp [LexState.kept, LexState.put, hmode]) fun ht => absurd hmode ht.1
  · rename_i hmode
    split_ifs at h with hnewline
    · cases h
      exact .unescape _ ⟨_, hmode⟩ (kept_of_escape hmode) (.inr (by simp [LexState.kept]))
    · cases h
      exact .unescape _ ⟨_, hmode⟩ (kept_of_escape hmode)
        (.inl (by simp [LexState.kept, LexState.put]))
  · rename_i hmode
    split_ifs at h with hnewline hescapable
    · cases h
      exact .unescape _ ⟨_, hmode⟩ (kept_of_escape hmode) (.inr (by simp [LexState.kept]))
    · cases h
      exact .unescape _ ⟨_, hmode⟩ (kept_of_escape hmode)
        (.inl (by simp [LexState.kept, LexState.put]))
    · cases h
      have hquote := (isEscapable_eq_false.mp (by simpa using hescapable)).1
      refine .keep ?_ fun _ => ⟨by simp [Mode.Tracked], hquote⟩
      rw [kept_of_escape hmode]
      simp [LexState.kept, LexState.put]
  · rename_i hmode
    split_ifs at h with hnewline
    cases h
    exact .delimit rfl fun ht => absurd hmode ht.2

theorem kept_lexStep_sublist {st u : LexState} {c : UInt8} (h : lexStep st c = some u) :
    u.kept.Sublist (st.kept ++ [c]) := by
  cases lexStep_effect h with
  | keep hkept _ => rw [hkept]
  | delimit hkept _ =>
      rw [hkept]
      exact List.sublist_append_left _ _
  | unescape k _ hst hkept =>
      rw [hst]
      rcases hkept with hkept | hkept
      · rw [hkept]
        exact (List.sublist_append_left k [92]).append (List.Sublist.refl [c])
      · rw [hkept, List.append_assoc]
        exact List.sublist_append_left _ _

theorem kept_run_sublist {st u : LexState} {text : List UInt8} (h : run lexStep st text = some u) :
    u.kept.Sublist (st.kept ++ text) := by
  induction text generalizing st with
  | nil =>
      cases h
      rw [List.append_nil]
  | cons c text ih =>
      rcases run_cons_eq_some.mp h with ⟨v, hv, hrest⟩
      have hone := (kept_lexStep_sublist hv).append (List.Sublist.refl text)
      rw [List.append_assoc] at hone
      exact (ih hrest).trans hone

/-! ## Runs that lose no single quote, backslash or hash -/

def Lossless (before after : List UInt8) : Prop :=
  ∀ x, x = 39 ∨ x = 92 ∨ x = 35 → before.count x ≤ after.count x

-- A run that loses nothing loses nothing in its first part, and nothing in the rest.
theorem Lossless.split {st u v : LexState} {text rest : List UInt8}
    (h : Lossless (st.kept ++ (text ++ rest)) v.kept) (htext : run lexStep st text = some u)
    (hrest : run lexStep u rest = some v) :
    Lossless (st.kept ++ text) u.kept ∧ Lossless (u.kept ++ rest) v.kept := by
  constructor
  · intro x hx
    have hall := h x hx
    have hle := (kept_run_sublist hrest).count_le x
    simp only [List.count_append] at hall hle ⊢
    omega
  · intro x hx
    have hall := h x hx
    have hle := (kept_run_sublist htext).count_le x
    simp only [List.count_append] at hall hle ⊢
    omega

theorem Lossless.split_cons {st u v : LexState} {c : UInt8} {rest : List UInt8}
    (h : Lossless (st.kept ++ c :: rest) v.kept) (hc : lexStep st c = some u)
    (hrest : run lexStep u rest = some v) :
    Lossless (st.kept ++ [c]) u.kept ∧ Lossless (u.kept ++ rest) v.kept := by
  have hone : run lexStep st [c] = some u := by
    rw [run_cons, hc]
    rfl
  exact @Lossless.split st u v [c] rest h hone hrest

theorem lexStep_lossless {st u : LexState} {c : UInt8} (h : lexStep st c = some u)
    (htracked : st.mode.Tracked) (hloss : Lossless (st.kept ++ [c]) u.kept) :
    u.mode.Tracked ∧ u.kept.count 34 = st.kept.count 34 := by
  cases lexStep_effect h with
  | keep hkept hmode =>
      have hne : 34 ∉ [c] := by simpa using (hmode htracked).2.symm
      refine ⟨(hmode htracked).1, ?_⟩
      rw [hkept, List.count_append, List.count_eq_zero.mpr hne, Nat.add_zero]
  | delimit hkept hmode =>
      rcases hmode htracked with hu | rfl | rfl
      · exact ⟨hu, by rw [hkept]⟩
      · have hcount := hloss 39 (.inl rfl)
        simp only [hkept, List.count_append, List.count_singleton_self] at hcount
        omega
      · have hcount := hloss 35 (.inr (.inr rfl))
        simp only [hkept, List.count_append, List.count_singleton_self] at hcount
        omega
  | unescape k _ hst hkept =>
      have hcount := hloss 92 (.inr (.inl rfl))
      rcases hkept with hkept | hkept
      · simp only [hst, hkept, List.count_append, List.count_singleton_self] at hcount
        omega
      · simp only [hst, hkept, List.count_append, List.count_singleton_self] at hcount
        omega

/-- A double quote is never kept unless some other byte is lost for it. -/
theorem run_lossless {st u : LexState} {text : List UInt8} (h : run lexStep st text = some u)
    (htracked : st.mode.Tracked) (hloss : Lossless (st.kept ++ text) u.kept) :
    u.kept.count 34 = st.kept.count 34 := by
  induction text generalizing st with
  | nil =>
      cases h
      rfl
  | cons c text ih =>
      rcases run_cons_eq_some.mp h with ⟨v, hv, hrest⟩
      have hsplit := Lossless.split_cons hloss hv hrest
      have hstep := lexStep_lossless hv htracked hsplit.1
      rw [ih hrest hstep.1 hsplit.2, hstep.2]

-- An escaping backslash is lost.
theorem not_lossless_of_escapable {st u : LexState} {d : UInt8} (hmode : st.mode = .escape true)
    (hd : isEscapable d = true) (h : lexStep st d = some u) :
    ¬ Lossless (st.kept ++ [d]) u.kept := by
  have hkept : u.kept.Sublist (st.tokens.flatMap Token.bytes ++ st.cur.getD [] ++ [d]) := by
    unfold lexStep at h
    simp only [hmode, hd, if_true] at h
    split_ifs at h
    · cases h
      simp [LexState.kept]
    · cases h
      simp [LexState.kept, LexState.put]
  intro hloss
  have hcount := hloss 92 (.inr (.inl rfl))
  have hle := hkept.count_le 92
  rw [kept_of_escape hmode] at hcount
  simp only [List.count_append, List.count_singleton_self] at hcount hle
  omega

theorem quotable_of_lossless {t rest : List UInt8} {st u : LexState}
    (hmode : st.mode = .dquote ∨ st.mode = .escape true ∧ isEscapable (t.headD 34) = false)
    (hrun : run lexStep st (t ++ 34 :: rest) = some u) (hquote : 34 ∉ t)
    (hloss : Lossless (st.kept ++ (t ++ 34 :: rest)) u.kept) : Quotable t := by
  induction t generalizing st with
  | nil => trivial
  | cons c t ih =>
      rw [List.cons_append] at hrun hloss
      rcases run_cons_eq_some.mp hrun with ⟨v, hv, hrest⟩
      have hsplit := Lossless.split_cons hloss hv hrest
      have hc : c ≠ 34 := fun he => hquote (by simp [he])
      have ht : 34 ∉ t := fun h => hquote (by simp [h])
      rcases hmode with hmode | ⟨hmode, hnext⟩
      · simp only [lexStep, hmode, lexDquote, hc, if_false] at hv
        split_ifs at hv with hexpand hslash
        · -- a backslash, so the byte after it must not be one that it escapes
          cases hv
          have hnext : isEscapable (t.headD 34) = false := by
            by_contra hescapes
            have htail : ∃ tail, t ++ 34 :: rest = t.headD 34 :: tail := by
              cases t with
              | nil => exact ⟨rest, rfl⟩
              | cons d t => exact ⟨t ++ 34 :: rest, rfl⟩
            rcases htail with ⟨tail, htail⟩
            rw [htail] at hrest hsplit
            rcases run_cons_eq_some.mp hrest with ⟨w, hw, hrest'⟩
            exact not_lossless_of_escapable rfl (by simpa using hescapes) hw
              (Lossless.split_cons hsplit.2 hw hrest').1
          exact ⟨hc, fun he => hexpand (.inl he), fun he => hexpand (.inr he), fun _ => hnext,
            ih (.inr ⟨rfl, hnext⟩) hrest ht hsplit.2⟩
        · cases hv
          exact ⟨hc, fun he => hexpand (.inl he), fun he => hexpand (.inr he),
            fun he => absurd he hslash, @ih (st.put [c]) (.inl hmode) hrest ht hsplit.2⟩
      · have hplain := isEscapable_eq_false.mp hnext
        have hnext' : isEscapable c = false := hnext
        have hnewline : c ≠ 10 := hplain.2.2.2.2
        simp only [lexStep, hmode, hnext', hnewline, if_false] at hv
        cases hv
        exact ⟨hc, hplain.2.1, hplain.2.2.1, fun he => absurd he hplain.2.2.2.1,
          ih (.inl rfl) hrest ht hsplit.2⟩

theorem quotable_of_run {pieces : List Piece} {st u : LexState} (hmode : st.mode = .plain)
    (hrun : run lexStep st (render pieces) = some u)
    (hloss : Lossless (st.kept ++ render pieces) u.kept)
    (hquote : ∀ t, .quoted t ∈ pieces → 34 ∉ t) : ∀ t, .quoted t ∈ pieces → Quotable t := by
  induction pieces generalizing st with
  | nil => simp
  | cons p pieces ih =>
      have hquote' : ∀ t, .quoted t ∈ pieces → 34 ∉ t := fun t ht => hquote t (by simp [ht])
      cases p with
      | bare text =>
          rw [render] at hrun hloss
          have hruns := hrun
          rw [run_append, Option.bind_eq_some_iff] at hruns
          rcases hruns with ⟨v, hv, hrest⟩
          have hvmode := run_bare_mode hmode text.bare hv
          intro t ht
          exact ih hvmode hrest (Lossless.split hloss hv hrest).2 hquote' t (by simpa using ht)
      | quoted t =>
          rw [render] at hrun hloss
          have hinner := hrun
          rw [run_cons, lexStep_open hmode, Option.bind_some] at hinner
          have ht : Quotable t := quotable_of_lossless (.inl rfl) hinner (hquote t (by simp))
            (Lossless.split_cons hloss (lexStep_open hmode) hinner).2
          rw [List.append_cons t, ← List.cons_append] at hrun hloss
          rw [run_append, run_render_quoted hmode ht, Option.bind_some] at hrun
          have hrest := (Lossless.split hloss (run_render_quoted hmode ht) hrun).2
          intro t' ht'
          rcases List.mem_cons.mp ht' with he | hmem
          · cases he
            exact ht
          · exact @ih { st.put t with bare := false } hmode hrun hrest hquote' t' hmem

/-! ## The two readings of a command -/

theorem kept_bare_step {st u : LexState} {c : UInt8} (hmode : st.mode = .plain)
    (h : lexStep st c = some u) : st.kept.Sublist u.kept := by
  cases lexStep_effect h with
  | keep hkept _ =>
      rw [hkept]
      exact List.sublist_append_left _ _
  | delimit hkept _ => rw [hkept]
  | unescape _ hescape _ _ =>
      rcases hescape with ⟨b, hb⟩
      rw [hmode] at hb
      cases hb

theorem kept_bare_run {st u : LexState} {text : List UInt8} (hmode : st.mode = .plain)
    (htext : text.all isBare = true) (h : run lexStep st text = some u) :
    st.kept.Sublist u.kept := by
  induction text generalizing st with
  | nil =>
      cases h
      exact List.Sublist.refl _
  | cons c text ih =>
      rw [List.all_cons, Bool.and_eq_true] at htext
      rcases run_cons_eq_some.mp h with ⟨v, hv, hrest⟩
      have hvmode := lexStep_bare_mode hmode htext.1 hv
      exact (kept_bare_step hmode hv).trans (ih hvmode htext.2 hrest)

-- The quoted texts of a command, one after another.
def quotedText : List Piece → List UInt8
  | [] => []
  | .bare _ :: pieces => quotedText pieces
  | .quoted t :: pieces => t ++ quotedText pieces

theorem mem_quotedText {pieces : List Piece} {t : List UInt8} (ht : .quoted t ∈ pieces)
    {c : UInt8} (hc : c ∈ t) : c ∈ quotedText pieces := by
  induction pieces with
  | nil => cases ht
  | cons p pieces ih =>
      rcases List.mem_cons.mp ht with rfl | hmem
      · exact List.mem_append_left _ hc
      · cases p with
        | bare _ => exact ih hmem
        | quoted _ => exact List.mem_append_right _ (ih hmem)

/-- What a command means keeps every byte of its quoted texts. -/
theorem count_meaning {pieces : List Piece} {st u : LexState} (hmode : st.mode = .plain)
    (h : run pieceStep st pieces = some u) (x : UInt8) :
    st.kept.count x + (quotedText pieces).count x ≤ u.kept.count x := by
  induction pieces generalizing st with
  | nil =>
      cases h
      exact Nat.le_refl _
  | cons p pieces ih =>
      rcases run_cons_eq_some.mp h with ⟨v, hv, hrest⟩
      cases p with
      | bare text =>
          have hle := (kept_bare_run hmode text.bare hv).count_le x
          have hnext := ih (run_bare_mode hmode text.bare hv) hrest
          rw [quotedText]
          omega
      | quoted t =>
          cases hv
          have hnext := @ih { st.put t with bare := false } hmode hrest
          have hkept : ({ st.put t with bare := false } : LexState).kept = st.kept ++ t := by
            simp [LexState.kept, LexState.put, hmode]
          rw [hkept, List.count_append] at hnext
          rw [quotedText, List.count_append]
          omega

-- Only quoted texts have single quotes, backslashes and hashes.
theorem count_render (pieces : List Piece) {x : UInt8} (hx : x = 39 ∨ x = 92 ∨ x = 35) :
    (render pieces).count x = (quotedText pieces).count x := by
  induction pieces with
  | nil => rfl
  | cons p pieces ih =>
      cases p with
      | bare text =>
          have hnone : text.bytes.count x = 0 := by
            rw [List.count_eq_zero]
            intro hmem
            have hc := isBare_iff.mp (List.all_eq_true.mp text.bare x hmem)
            rcases hx with rfl | rfl | rfl
            · exact hc.2.1 rfl
            · exact hc.2.2.1 rfl
            · exact hc.2.2.2 rfl
          rw [render, quotedText, List.count_append, hnone, ih, Nat.zero_add]
      | quoted t =>
          have hne : (34 : UInt8) ≠ x := by rcases hx with rfl | rfl | rfl <;> decide
          rw [render, quotedText, List.count_cons_of_ne hne, List.count_append,
            List.count_cons_of_ne hne, List.count_append, ih]

theorem kept_finish {st : LexState} {tokens : List Token} (h : finish st = some tokens) :
    st.kept = tokens.flatMap Token.bytes := by
  have hplain : ∀ b, st.mode ≠ .escape b := by
    intro b hb
    simp [finish, hb] at h
  have htokens : tokens = st.endWord.tokens := by
    unfold finish at h
    split at h
    · exact (Option.some.inj h).symm
    · exact (Option.some.inj h).symm
    · cases h
  rw [htokens, kept_of_not_escape hplain]
  unfold LexState.endWord
  cases hcur : st.cur <;> simp [Token.bytes]

def SimpleCommand.bytes (c : SimpleCommand) : List UInt8 :=
  c.argv.flatten ++ c.redirects.flatMap fun r => r.1 ++ r.2

theorem simpleCommand_perm :
    {tokens : List Token} → {cmd : SimpleCommand} → simpleCommand tokens = some cmd →
      cmd.bytes.Perm (tokens.flatMap Token.bytes)
  | [], cmd, h => by
      cases h
      exact List.Perm.refl _
  | .word w :: tokens, cmd, h => by
      rcases Option.map_eq_some_iff.mp h with ⟨c, hc, rfl⟩
      have hrest := (simpleCommand_perm hc).append_left w
      simpa [SimpleCommand.bytes, Token.bytes] using hrest
  | .redirect io :: .word target :: tokens, cmd, h => by
      rcases Option.map_eq_some_iff.mp h with ⟨c, hc, rfl⟩
      have hrest := (simpleCommand_perm hc).append_left (io ++ target)
      have hmove : (c.argv.flatten ++
          ((io ++ target) ++ c.redirects.flatMap fun r => r.1 ++ r.2)).Perm
          ((io ++ target) ++ (c.argv.flatten ++ c.redirects.flatMap fun r => r.1 ++ r.2)) :=
        List.perm_append_comm_assoc _ _ _
      simpa [SimpleCommand.bytes, Token.bytes] using hmove.trans hrest
  | [.redirect _], cmd, h => by cases h
  | .redirect _ :: .redirect _ :: _, cmd, h => by cases h

/-- **Quoting is exact.**  A command is read as its pieces are meant exactly when each of its
    quoted texts is quotable. -/
theorem parse_render_iff {pieces : List Piece} {cmd : SimpleCommand}
    (hmeaning : meaning pieces = some cmd) :
    parse (render pieces) = some cmd ↔ ∀ t, .quoted t ∈ pieces → Quotable t := by
  constructor
  · intro hparse
    simp only [parse, meaning, Option.bind_eq_some_iff] at hparse hmeaning
    rcases hparse with ⟨tokens, ⟨st, hst, htokens⟩, hcmd⟩
    rcases hmeaning with ⟨tokens', ⟨u, hu, htokens'⟩, hcmd'⟩
    -- both readings keep the same bytes
    have hsame : ∀ x, st.kept.count x = u.kept.count x := by
      intro x
      rw [kept_finish htokens, kept_finish htokens', ← (simpleCommand_perm hcmd).count_eq,
        (simpleCommand_perm hcmd').count_eq]
    have hmeans := count_meaning rfl hu
    have hloss : Lossless (LexState.init.kept ++ render pieces) st.kept := by
      intro x hx
      rw [List.count_append, count_render pieces hx, hsame]
      exact hmeans x
    have hnone : (quotedText pieces).count 34 = 0 := by
      have hzero := run_lossless hst (by simp [LexState.init, Mode.Tracked]) hloss
      have hkept := hmeans 34
      rw [← hsame, hzero] at hkept
      omega
    apply quotable_of_run rfl hst hloss
    intro t ht hmem
    exact List.count_eq_zero.mp hnone (mem_quotedText ht hmem)
  · intro hquoted
    rw [parse, run_render rfl hquoted]
    exact hmeaning

end Reasoning.Shell
