import NodeBridge.Reasoning.Runs

/-!
# Quoting in the POSIX shell

A lexer for one simple command: words, their quotes removed, and `n>` redirections.  An operator
that would end the command, an expansion and a quote left open have no result.  A command built
from bare text and double-quoted text is lexed as it was meant when no quoted text has a byte that
is special between double quotes.
-/

namespace Reasoning.Shell

inductive Token where
  | word (text : List UInt8)
  | redirect (io : List UInt8) -- `>` with the digits before it
deriving DecidableEq

def Token.bytes : Token → List UInt8
  | .word text => text
  | .redirect io => io

inductive Mode where
  | plain
  | dquote
  | squote
  | escape (inDquote : Bool)
  | comment
deriving DecidableEq

structure LexState where
  tokens : List Token
  cur : Option (List UInt8) -- the word begun, if any
  bare : Bool -- nothing of that word was quoted
  mode : Mode
deriving DecidableEq

namespace LexState

def init : LexState := ⟨[], none, true, .plain⟩

-- Bytes that join the word begun, or begin one.
def put (st : LexState) (text : List UInt8) : LexState :=
  { st with cur := some (st.cur.getD [] ++ text) }

def endWord (st : LexState) : LexState :=
  match st.cur with
  | none => st
  | some w => { st with tokens := st.tokens ++ [.word w], cur := none, bare := true }

end LexState

def isBlank (c : UInt8) : Bool := c == 32 || c == 9

-- Newline, `&`, `(`, `)`, `;`, `<` and `|`.
def isOperator (c : UInt8) : Bool := c ∈ [10, 38, 40, 41, 59, 60, 124]

-- `$`, the backquote, `*`, `?`, `[` and `~`.
def isExpansion (c : UInt8) : Bool := c ∈ [36, 96, 42, 63, 91, 126]

-- What a backslash escapes between double quotes: `"`, `$`, the backquote, itself, newline.
def isEscapable (c : UInt8) : Bool := c ∈ [34, 36, 96, 92, 10]

def isDigit (c : UInt8) : Bool := 48 ≤ c && c ≤ 57

-- A bare word of digits right before `>` is its file descriptor.
def redirectTo (st : LexState) : LexState :=
  if st.bare && (st.cur.getD []).all isDigit then
    { st with tokens := st.tokens ++ [.redirect (st.cur.getD [])], cur := none }
  else { st.endWord with tokens := st.endWord.tokens ++ [.redirect []] }

def lexPlain (st : LexState) (c : UInt8) : Option LexState :=
  if isBlank c then some st.endWord
  else if c = 34 then some { st.put [] with bare := false, mode := .dquote }
  else if c = 39 then some { st.put [] with bare := false, mode := .squote }
  else if c = 92 then some { st with mode := .escape false }
  else if c = 62 then some (redirectTo st)
  else if c = 35 ∧ st.cur = none then some { st with mode := .comment }
  else if isOperator c || isExpansion c then none
  else some (st.put [c])

def lexDquote (st : LexState) (c : UInt8) : Option LexState :=
  if c = 34 then some { st with mode := .plain }
  else if c = 36 ∨ c = 96 then none
  else if c = 92 then some { st with mode := .escape true }
  else some (st.put [c])

def lexStep (st : LexState) (c : UInt8) : Option LexState :=
  match st.mode with
  | .plain => lexPlain st c
  | .dquote => lexDquote st c
  | .squote => if c = 39 then some { st with mode := .plain } else some (st.put [c])
  | .escape false =>
      if c = 10 then some { st with mode := .plain } -- a line continued
      else some { st.put [c] with bare := false, mode := .plain }
  | .escape true =>
      if c = 10 then some { st with mode := .dquote }
      else if isEscapable c then some { st.put [c] with mode := .dquote }
      else some { st.put [92, c] with mode := .dquote } -- the backslash stays
  | .comment => if c = 10 then none else some st

def finish (st : LexState) : Option (List Token) :=
  match st.mode with
  | .plain | .comment => some st.endWord.tokens
  | _ => none

structure SimpleCommand where
  argv : List (List UInt8)
  redirects : List (List UInt8 × List UInt8)
deriving DecidableEq

def simpleCommand : List Token → Option SimpleCommand
  | [] => some ⟨[], []⟩
  | .word w :: ts => (simpleCommand ts).map fun c => { c with argv := w :: c.argv }
  | .redirect io :: .word target :: ts =>
      (simpleCommand ts).map fun c => { c with redirects := (io, target) :: c.redirects }
  | .redirect _ :: _ => none

def parse (text : List UInt8) : Option SimpleCommand :=
  ((run lexStep .init text).bind finish).bind simpleCommand

/-! ## Commands put together from pieces -/

-- Neither a quote of either kind nor a backslash nor a hash.
def isBare (c : UInt8) : Bool := c != 34 && c != 39 && c != 92 && c != 35

structure BareText where
  bytes : List UInt8
  bare : bytes.all isBare = true

inductive Piece where
  | bare (text : BareText)
  | quoted (text : List UInt8)

def render : List Piece → List UInt8
  | [] => []
  | .bare text :: pieces => text.bytes ++ render pieces
  | .quoted text :: pieces => 34 :: (text ++ 34 :: render pieces)

-- What a piece is meant to say: quoted text stands for itself.
def pieceStep (st : LexState) : Piece → Option LexState
  | .bare text => run lexStep st text.bytes
  | .quoted text => some { st.put text with bare := false }

def meaning (pieces : List Piece) : Option SimpleCommand :=
  ((run pieceStep .init pieces).bind finish).bind simpleCommand

/-- Nothing in the text is special between double quotes; a backslash may stand only before a byte
    that it does not escape, and what follows the text is a quote. -/
def Quotable : List UInt8 → Prop
  | [] => True
  | c :: t => c ≠ 34 ∧ c ≠ 36 ∧ c ≠ 96 ∧ (c = 92 → isEscapable (t.headD 34) = false) ∧ Quotable t

instance decidableQuotable : (t : List UInt8) → Decidable (Quotable t)
  | [] => .isTrue trivial
  | _ :: t =>
      have := decidableQuotable t
      inferInstanceAs (Decidable (_ ∧ _ ∧ _ ∧ _ ∧ _))

/-! ## Quotable text is read as it stands -/

-- Inside double quotes, `w` having been read of them.
def LexState.quoted (st : LexState) (w : List UInt8) : LexState :=
  { st.put w with bare := false, mode := .dquote }

theorem isEscapable_eq_false {c : UInt8} :
    isEscapable c = false ↔ c ≠ 34 ∧ c ≠ 36 ∧ c ≠ 96 ∧ c ≠ 92 ∧ c ≠ 10 := by
  simp [isEscapable]

theorem put_quoted (st : LexState) (w t : List UInt8) :
    { (st.quoted w).put t with mode := .dquote } = st.quoted (w ++ t) := by
  simp [LexState.quoted, LexState.put]

theorem lexStep_quoted (st : LexState) (w : List UInt8) {c : UInt8} (hquote : c ≠ 34)
    (hdollar : c ≠ 36) (hback : c ≠ 96) (hslash : c ≠ 92) :
    lexStep (st.quoted w) c = some (st.quoted (w ++ [c])) := by
  rw [← put_quoted]
  simp [lexStep, LexState.quoted, lexDquote, hquote, hdollar, hback, hslash, LexState.put]

-- A backslash before a byte that it does not escape.
theorem run_quoted_backslash (st : LexState) (w : List UInt8) {d : UInt8}
    (hd : isEscapable d = false) :
    run lexStep (st.quoted w) [92, d] = some (st.quoted (w ++ [92, d])) := by
  have hnewline := (isEscapable_eq_false.mp hd).2.2.2.2
  rw [← put_quoted]
  simp [run_cons, lexStep, LexState.quoted, lexDquote, hd, hnewline, LexState.put]

theorem run_quoted (st : LexState) :
    (t w : List UInt8) → Quotable t → run lexStep (st.quoted w) t = some (st.quoted (w ++ t))
  | [], w, _ => by rw [List.append_nil]; rfl
  | [c], w, h => by
      have hslash : c ≠ 92 := fun he => absurd (h.2.2.2.1 he) (by decide)
      rw [run_cons, lexStep_quoted st w h.1 h.2.1 h.2.2.1 hslash]
      rfl
  | c :: d :: t, w, h => by
      by_cases hslash : c = 92
      · have hd : isEscapable d = false := h.2.2.2.1 hslash
        have hstep := @run_append _ _ lexStep (st.quoted w) [c, d] t
        rw [hslash, run_quoted_backslash st w hd, Option.bind_some,
          run_quoted st t _ h.2.2.2.2.2.2.2.2] at hstep
        rw [hslash, List.append_cons w 92, List.append_assoc]
        simpa using hstep
      · rw [run_cons, lexStep_quoted st w h.1 h.2.1 h.2.2.1 hslash, Option.bind_some,
          run_quoted st (d :: t) _ h.2.2.2.2, List.append_assoc]
        rfl

theorem lexStep_open {st : LexState} (hmode : st.mode = .plain) :
    lexStep st 34 = some (st.quoted []) := by
  simp [lexStep, hmode, lexPlain, isBlank, LexState.quoted, LexState.put]

-- The quotes around a quotable text are taken off.
theorem run_render_quoted {st : LexState} (hmode : st.mode = .plain) {t : List UInt8}
    (ht : Quotable t) :
    run lexStep st (34 :: (t ++ [34])) = some { st.put t with bare := false } := by
  rw [run_cons, lexStep_open hmode, Option.bind_some, run_append, run_quoted st t [] ht,
    List.nil_append, Option.bind_some]
  simp [run_cons, lexStep, LexState.quoted, lexDquote, LexState.put, hmode]

theorem endWord_mode (st : LexState) : st.endWord.mode = st.mode := by
  unfold LexState.endWord
  split <;> rfl

theorem redirectTo_mode (st : LexState) : (redirectTo st).mode = st.mode := by
  unfold redirectTo
  split
  · rfl
  · exact endWord_mode st

theorem isBare_iff {c : UInt8} : isBare c = true ↔ c ≠ 34 ∧ c ≠ 39 ∧ c ≠ 92 ∧ c ≠ 35 := by
  simp [isBare, and_assoc]

theorem lexStep_bare_mode {st u : LexState} {c : UInt8} (hmode : st.mode = .plain)
    (hc : isBare c = true) (h : lexStep st c = some u) : u.mode = .plain := by
  rcases isBare_iff.mp hc with ⟨hquote, hsingle, hslash, hhash⟩
  simp only [lexStep, hmode, lexPlain, hquote, hsingle, hslash, hhash, if_false, false_and] at h
  split at h
  · cases h
    rw [endWord_mode, hmode]
  · split at h
    · cases h
      rw [redirectTo_mode, hmode]
    · split at h
      · cases h
      · cases h
        exact hmode

theorem run_bare_mode {st u : LexState} {text : List UInt8} (hmode : st.mode = .plain)
    (htext : text.all isBare = true) (h : run lexStep st text = some u) : u.mode = .plain := by
  induction text generalizing st with
  | nil =>
      cases h
      exact hmode
  | cons c text ih =>
      rw [List.all_cons, Bool.and_eq_true] at htext
      rcases run_cons_eq_some.mp h with ⟨v, hv, hrest⟩
      exact ih (lexStep_bare_mode hmode htext.1 hv) htext.2 hrest

/-- A command all of whose quoted texts are quotable is lexed as its pieces are meant. -/
theorem run_render {pieces : List Piece} {st : LexState} (hmode : st.mode = .plain)
    (hquoted : ∀ t, .quoted t ∈ pieces → Quotable t) :
    run lexStep st (render pieces) = run pieceStep st pieces := by
  induction pieces generalizing st with
  | nil => rfl
  | cons p pieces ih =>
      have hquoted' : ∀ t, .quoted t ∈ pieces → Quotable t := fun t ht =>
        hquoted t (by simp [ht])
      cases p with
      | bare text =>
          rw [render, run_append, run_cons, pieceStep]
          cases hu : run lexStep st text.bytes with
          | none => rfl
          | some u => exact ih (run_bare_mode hmode text.bare hu) hquoted'
      | quoted t =>
          rw [render, List.append_cons t, ← List.cons_append, run_append,
            run_render_quoted hmode (hquoted t (by simp)), run_cons]
          exact ih hmode hquoted'

end Reasoning.Shell
