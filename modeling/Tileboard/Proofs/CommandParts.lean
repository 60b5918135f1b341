import Tileboard.CommandLine

/-!
What the parts of a command do to the state of a file system, whatever file system it is.

1. **Parts** — a part that follows another begins where that one has succeeded (`bind_apply`), a
   request changes what the file system changes (`request_apply`), and a result changes nothing
   (`demand_apply`).

2. **Commands** — `encode_apply`, `decode_apply` and `labels_apply` say what a command gives in every
   case, in terms of the requests that it makes.

3. **Calls** — a call whose arguments ask for a command does what the command does
   (`execute_of_parse`).
-/

namespace Tileboard

namespace Command

variable {σ α β : Type}

/-! ## Parts -/

/-- The next part begins where the part has succeeded. -/
theorem bind_apply (part : ExceptT CommandError (StateM σ) α)
    (next : α → ExceptT CommandError (StateM σ) β) (s : σ) :
    (part >>= next).run s =
      match part.run s with
      | (.ok a, s) => (next a).run s
      | (.error error, s) => (.error error, s) := by
  show ExceptT.bindCont next (part.run s).1 (part.run s).2 = _
  rcases part.run s with ⟨_ | _, _⟩
  · rfl
  · rfl

theorem demand_apply {ε : Type} (wrap : ε → CommandError) (result : Except ε α) (s : σ) :
    (demand wrap result : ExceptT CommandError (StateM σ) α).run s =
      match result with
      | .ok a => (.ok a, s)
      | .error error => (.error (wrap error), s) := by
  cases result with
  | ok a => rfl
  | error error => rfl

theorem request_apply (wrap : AccessError → CommandError)
    (action : StateM σ (Except AccessError α)) (s : σ) :
    (request wrap action).run s =
      match action s with
      | (.ok a, s) => (.ok a, s)
      | (.error error, s) => (.error (wrap error), s) := by
  show ((action s).1.mapError wrap, (action s).2) = _
  rcases action s with ⟨_ | _, _⟩
  · rfl
  · rfl

/-! ## Commands -/

variable [FileAccess (StateM σ)]

/-- **What `encode` gives**: the first thing that fails, or the state behind a written board. -/
theorem encode_apply (input output : String) (rows cols : Nat) (s : σ) :
    (run (.encode input output rows cols) : ExceptT CommandError (StateM σ) String).run s =
      match Size.make rows cols with
      | .error error => (.error (.size error), s)
      | .ok size =>
        match (FileAccess.readText input : StateM σ _) s with
        | (.error error, s) => (.error (.reading input error), s)
        | (.ok script, s) =>
          match Board.ofScript script size with
          | .error error => (.error (.encoding input error), s)
          | .ok board =>
            match (FileAccess.writeText output board.fileText : StateM σ _) s with
            | (.error error, s) => (.error (.writing output error), s)
            | (.ok (), s) => (.ok "", s) := by
  rw [run, bind_apply, demand_apply]
  rcases Size.make rows cols with error | size
  · rfl
  simp only
  rw [bind_apply, request_apply]
  rcases (FileAccess.readText input : StateM σ _) s with ⟨error | script, s⟩
  · rfl
  simp only
  rw [bind_apply, demand_apply]
  rcases Board.ofScript script size with error | board
  · rfl
  simp only
  rw [bind_apply, request_apply]
  rcases (FileAccess.writeText output board.fileText : StateM σ _) s with ⟨error | _, s⟩
  · rfl
  · rfl

/-- What loading a board from a file gives. -/
theorem loadBoard_apply (path : String) (s : σ) :
    (loadBoard path : ExceptT CommandError (StateM σ) Board).run s =
      match (FileAccess.readText path : StateM σ _) s with
      | (.error error, s) => (.error (.reading path error), s)
      | (.ok text, s) =>
        match Board.load text with
        | .error error => (.error (.loading error), s)
        | .ok board => (.ok board, s) := by
  rw [loadBoard, bind_apply, request_apply]
  rcases (FileAccess.readText path : StateM σ _) s with ⟨error | text, s⟩
  · rfl
  simp only
  rw [demand_apply]
  rcases Board.load text with error | board
  · rfl
  · rfl

/-- **What `decode` gives**: a failure to load the board, a failure to make the folder, or what writing
the files into it gives. -/
theorem decode_apply (input output : String) (s : σ) :
    (run (.decode input output) : ExceptT CommandError (StateM σ) String).run s =
      match (loadBoard input : ExceptT CommandError (StateM σ) Board).run s with
      | (.error error, s) => (.error error, s)
      | (.ok board, s) =>
        match (makeFolders output : StateM σ _) s with
        | (.error error, s) => (.error (.creating output error), s)
        | (.ok (), s) =>
          match (writeAll output (scriptFiles board.scripts) :
              ExceptT CommandError (StateM σ) Unit).run s with
          | (.error error, s) => (.error error, s)
          | (.ok (), s) => (.ok "", s) := by
  rw [run, bind_apply]
  rcases (loadBoard input : ExceptT CommandError (StateM σ) Board).run s with ⟨error | board, s⟩
  · rfl
  simp only
  rw [bind_apply, request_apply]
  rcases (makeFolders output : StateM σ _) s with ⟨error | _, s⟩
  · rfl
  simp only
  rw [bind_apply]
  rcases (writeAll output (scriptFiles board.scripts) : ExceptT CommandError (StateM σ) Unit).run s
    with ⟨error | _, s⟩
  · rfl
  · rfl

/-- **What `labels` gives**: the table of the board in the file. -/
theorem labels_apply (input : String) (s : σ) :
    (run (.labels input) : ExceptT CommandError (StateM σ) String).run s =
      match (loadBoard input : ExceptT CommandError (StateM σ) Board).run s with
      | (.error error, s) => (.error error, s)
      | (.ok board, s) => (.ok board.labelTable, s) := by
  rw [run, bind_apply]
  rcases (loadBoard input : ExceptT CommandError (StateM σ) Board).run s with ⟨error | board, s⟩
  · rfl
  · rfl

end Command

/-! ## Calls -/

namespace CommandLine

variable {σ : Type} [FileAccess (StateM σ)]

/-- A call that asks for a command does what the command does. -/
theorem execute_of_parse {arguments : List String} {command : Command}
    (h : parse arguments = some (.run command)) (s : σ) :
    (execute arguments : StateM σ Outcome) s =
      match (command.run : ExceptT CommandError (StateM σ) String).run s with
      | (.ok output, s) => (⟨0, output, ""⟩, s)
      | (.error error, s) => (⟨1, "", "Error: " ++ error.message ++ "\n"⟩, s) := by
  rw [execute, h]
  show (StateT.bind (command.run : ExceptT CommandError (StateM σ) String).run _ : StateM σ _) s = _
  rw [StateT.bind]
  rcases (command.run : ExceptT CommandError (StateM σ) String).run s with ⟨error | output, s⟩
  · rfl
  · rfl

end CommandLine

end Tileboard
