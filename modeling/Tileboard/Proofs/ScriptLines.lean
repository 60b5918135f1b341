import Tileboard.Script
import Tileboard.Proofs.CommandGrammar

/-!
Reading a script line by line.

A script is read from its first line on, and the first line that is no command decides.  This file
says what the reading gives in each of the two cases, without opening the reader again later.

1. **Success** — if every line is a command, the script is read, and it is the script of its own
   tiles: its lines are numbered from 1 and a line is a marker exactly if its tile is one
   (`read_eq_ok_iff`).  The grammar gives valid tiles only, so they are valid
   (`valid_of_map_readLine`).

2. **Failure** — if the commands before some line are read and the line itself is not, the error
   is that of the line, under its number (`readFrom_of_first_error`), and there are no other errors
   (`readFrom_eq_error_iff`).

3. **Other numbers** — where the numbers start makes no other difference: every line, and the line
   of the error, is moved by as much (`readFrom_add_of_ok`, `readFrom_add_of_error`).
-/

namespace Tileboard

/-- The line under a number that is so much greater. -/
def Line.later (k : Nat) (line : Line) : Line :=
  { line with number := line.number + k }

namespace Script

/-! ## The lines of a sequence of tiles -/

@[simp] theorem map_token_linesFrom (number : Nat) (tokens : List Token) :
    (linesFrom number tokens).map (·.token) = tokens := by
  induction tokens generalizing number with
  | nil => rfl
  | cons token rest ih => simp [linesFrom, Line.ofToken, ih]

@[simp] theorem map_token_ofTokens (tokens : List Token) :
    (ofTokens tokens).map (·.token) = tokens :=
  map_token_linesFrom 1 tokens

@[simp] theorem length_ofTokens (tokens : List Token) :
    (ofTokens tokens).length = tokens.length := by
  rw [← List.length_map (f := (·.token)), map_token_ofTokens]

/-! ## Success -/

theorem readFrom_cons_of_ok {number : Nat} {command : String} {rest : List String} {token : Token}
    (h : Grammar.readLine command = .ok token) :
    readFrom number (command :: rest) =
      (readFrom (number + 1) rest).map (Line.ofToken number token :: ·) := by
  simp only [readFrom, h]
  cases readFrom (number + 1) rest <;> rfl

/-- The lines that are read are those of a sequence of tiles, one for each command, and each tile
is what its command stands for. -/
theorem readFrom_eq_ok_iff {number : Nat} {commands : List String} {lines : List Line} :
    readFrom number commands = .ok lines ↔ ∃ tokens,
      commands.map Grammar.readLine = tokens.map .ok ∧ lines = linesFrom number tokens := by
  induction commands generalizing number lines with
  | nil =>
    constructor
    · intro h
      injection h with h
      exact ⟨[], rfl, h.symm⟩
    · rintro ⟨tokens, ht, rfl⟩
      rw [List.map_eq_nil_iff.mp ht.symm]
      rfl
  | cons command rest ih =>
    constructor
    · intro h
      cases hline : Grammar.readLine command with
      -- one line that is no command, and nothing is read
      | error reason => simp [readFrom, hline] at h
      | ok token =>
        rw [readFrom_cons_of_ok hline] at h
        cases hrest : readFrom (number + 1) rest with
        | error error => rw [hrest] at h; cases h
        | ok lines' =>
          rw [hrest] at h
          injection h with h
          obtain ⟨tokens, ht, rfl⟩ := ih.mp hrest
          exact ⟨token :: tokens, by rw [List.map_cons, List.map_cons, hline, ht], h.symm⟩
    · rintro ⟨tokens, ht, rfl⟩
      cases tokens with
      | nil => cases ht
      | cons token tokens =>
        rw [List.map_cons, List.map_cons, List.cons.injEq] at ht
        rw [readFrom_cons_of_ok ht.1, ih.mpr ⟨tokens, ht.2, rfl⟩]
        rfl

/-- **A script that is read is the script of its own tiles**, and these are what its commands stand
for. -/
theorem read_eq_ok_iff {script : String} {lines : List Line} :
    read script = .ok lines ↔ ∃ tokens,
      (commands script).map Grammar.readLine = tokens.map .ok ∧ lines = ofTokens tokens :=
  readFrom_eq_ok_iff

/-- There is a line for each command. -/
theorem length_of_read {script : String} {lines : List Line} (h : read script = .ok lines) :
    lines.length = (commands script).length := by
  obtain ⟨tokens, htokens, rfl⟩ := read_eq_ok_iff.mp h
  have hlength := congrArg List.length htokens
  rw [List.length_map, List.length_map] at hlength
  rw [length_ofTokens, hlength]

/-- Commands stand for tiles, one for each. -/
theorem exists_tokens_of_forall {commands : List String}
    (h : ∀ c ∈ commands, ∃ token, Grammar.readLine c = .ok token) :
    ∃ tokens : List Token, commands.map Grammar.readLine = tokens.map .ok := by
  induction commands with
  | nil => exact ⟨[], rfl⟩
  | cons c commands ih =>
    obtain ⟨token, htoken⟩ := h c (List.mem_cons_self ..)
    obtain ⟨tokens, htokens⟩ := ih fun d hd => h d (List.mem_cons_of_mem c hd)
    exact ⟨token :: tokens, by rw [List.map_cons, List.map_cons, htoken, htokens]⟩

/-- The tiles that commands stand for are valid. -/
theorem valid_of_map_readLine {commands : List String} {tokens : List Token}
    (h : commands.map Grammar.readLine = tokens.map .ok) :
    ∀ token ∈ tokens, token.valid = true := by
  intro token htoken
  have hmem : (Except.ok token : Except LineError Token) ∈ commands.map Grammar.readLine := by
    rw [h]
    exact List.mem_map_of_mem htoken
  obtain ⟨command, _, hcommand⟩ := List.mem_map.mp hmem
  exact Grammar.valid_of_readLine hcommand

/-! ## Failure -/

/-- **The first line that is no command decides the error**, under its number. -/
theorem readFrom_of_first_error {number : Nat} {before after : List String} {command : String}
    {reason : LineError}
    (hb : ∀ c ∈ before, ∃ token, Grammar.readLine c = .ok token)
    (hc : Grammar.readLine command = .error reason) :
    readFrom number (before ++ command :: after) =
      .error (.line (number + before.length) reason) := by
  induction before generalizing number with
  | nil => simp [readFrom, hc]
  | cons first before ih =>
    obtain ⟨token, htoken⟩ := hb first (List.mem_cons_self ..)
    have hrest : readFrom (number + 1) (before ++ command :: after) =
        .error (.line (number + 1 + before.length) reason) :=
      ih fun c h => hb c (List.mem_cons_of_mem first h)
    rw [List.cons_append, readFrom_cons_of_ok htoken, hrest, List.length_cons]
    show Except.error _ = Except.error _
    congr 2
    omega

/-- **An error is that of the first line that is no command**, under its number. -/
theorem readFrom_eq_error_iff {number : Nat} {commands : List String} {error : ScriptError} :
    readFrom number commands = .error error ↔ ∃ before command after reason,
      commands = before ++ command :: after ∧
      (∀ c ∈ before, ∃ token, Grammar.readLine c = .ok token) ∧
      Grammar.readLine command = .error reason ∧
      error = .line (number + before.length) reason := by
  constructor
  · intro h
    induction commands generalizing number error with
    | nil => cases h
    | cons command rest ih =>
      cases hline : Grammar.readLine command with
      | error reason =>
        rw [readFrom, hline] at h
        injection h with h
        exact ⟨[], command, rest, reason, rfl, fun c hc => absurd hc List.not_mem_nil, hline,
          h.symm⟩
      | ok token =>
        rw [readFrom_cons_of_ok hline] at h
        cases hrest : readFrom (number + 1) rest with
        | ok lines => rw [hrest] at h; cases h
        | error error' =>
          rw [hrest] at h
          injection h with h
          obtain ⟨before, command', after, reason, rfl, hbefore, hreason, herror⟩ := ih hrest
          refine ⟨command :: before, command', after, reason, rfl, ?_, hreason, ?_⟩
          · intro c hc
            rcases List.mem_cons.mp hc with rfl | hc
            · exact ⟨token, hline⟩
            · exact hbefore c hc
          · rw [← h, herror, List.length_cons]
            congr 1
            omega
  · rintro ⟨before, command, after, reason, rfl, hbefore, hreason, rfl⟩
    exact readFrom_of_first_error hbefore hreason

/-! ## Other numbers -/

theorem linesFrom_add (number k : Nat) (tokens : List Token) :
    linesFrom (number + k) tokens = (linesFrom number tokens).map (Line.later k) := by
  induction tokens generalizing number with
  | nil => rfl
  | cons token tokens ih =>
    have hnext : number + k + 1 = number + 1 + k := by omega
    rw [linesFrom, linesFrom, hnext, ih]
    rfl

theorem readFrom_add_of_ok {number k : Nat} {commands : List String} {lines : List Line}
    (h : readFrom number commands = .ok lines) :
    readFrom (number + k) commands = .ok (lines.map (Line.later k)) := by
  obtain ⟨tokens, htokens, rfl⟩ := readFrom_eq_ok_iff.mp h
  exact readFrom_eq_ok_iff.mpr ⟨tokens, htokens, (linesFrom_add number k tokens).symm⟩

theorem readFrom_add_of_error {number k : Nat} {commands : List String} {error : ScriptError}
    (h : readFrom number commands = .error error) : ∃ n reason, error = .line n reason ∧
      readFrom (number + k) commands = .error (.line (n + k) reason) := by
  obtain ⟨before, command, after, reason, rfl, hbefore, hreason, rfl⟩ := readFrom_eq_error_iff.mp h
  refine ⟨number + before.length, reason, rfl, ?_⟩
  rw [readFrom_of_first_error hbefore hreason, Nat.add_right_comm]

end Script

end Tileboard
