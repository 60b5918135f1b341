import Tileboard.Encoding

/-!
From boards back to scripts.

In reading order, a tile belongs to the thread of the nearest marker at or before it, and to the
first thread if there is none.  `Board.lanes` groups the tiles by thread and keeps their order;
`Board.scripts` writes the command of each.
-/

namespace Tileboard

/-- Something for each of the three threads, in order. -/
structure Lanes (α : Type) where
  first : List α
  second : List α
  third : List α
  deriving DecidableEq, Repr

namespace Lanes

variable {α β : Type}

/-- Nothing in any lane. -/
def empty : Lanes α :=
  ⟨[], [], []⟩

/-- What is in a lane. -/
def get (lanes : Lanes α) : Lane → List α
  | .first => lanes.first
  | .second => lanes.second
  | .third => lanes.third

/-- The lanes with one more thing in front of a lane. -/
def cons (lane : Lane) (a : α) (lanes : Lanes α) : Lanes α :=
  match lane with
  | .first => { lanes with first := a :: lanes.first }
  | .second => { lanes with second := a :: lanes.second }
  | .third => { lanes with third := a :: lanes.third }

/-- The lanes with a function applied to all that is in them. -/
def map (f : α → β) (lanes : Lanes α) : Lanes β :=
  ⟨lanes.first.map f, lanes.second.map f, lanes.third.map f⟩

/-- The lanes one after the other. -/
def flatten (lanes : Lanes α) : List α :=
  lanes.first ++ lanes.second ++ lanes.third

/-- Whether every lane is empty. -/
def isEmpty (lanes : Lanes α) : Bool :=
  lanes.first.isEmpty && lanes.second.isEmpty && lanes.third.isEmpty

/-- The lanes in a list. -/
def toList (lanes : Lanes α) : List (List α) :=
  [lanes.first, lanes.second, lanes.third]

@[simp] theorem get_empty (lane : Lane) : (empty : Lanes α).get lane = [] := by
  cases lane <;> rfl

@[simp] theorem get_cons_self (lane : Lane) (a : α) (lanes : Lanes α) :
    (lanes.cons lane a).get lane = a :: lanes.get lane := by
  cases lane <;> rfl

theorem get_cons_of_ne {lane other : Lane} (h : other ≠ lane) (a : α) (lanes : Lanes α) :
    (lanes.cons lane a).get other = lanes.get other := by
  cases lane <;> cases other <;> first | rfl | exact absurd rfl h

@[simp] theorem get_map (f : α → β) (lanes : Lanes α) (lane : Lane) :
    (lanes.map f).get lane = (lanes.get lane).map f := by
  cases lane <;> rfl

/-- The tiles of a sequence by thread; those before the first marker are of the given thread. -/
def ofTokensFrom (lane : Lane) : List Token → Lanes Token
  | [] => empty
  | token :: rest =>
    let lane := token.kind.lane?.getD lane
    (ofTokensFrom lane rest).cons lane token

/-- The tiles of a sequence by thread. -/
def ofTokens (tokens : List Token) : Lanes Token :=
  ofTokensFrom .first tokens

/-! ## Lanes as text -/

/-- Some commands as a script. -/
def joinLines (commands : List String) : String :=
  "\n".intercalate commands

/-- The script of one lane. -/
def text (scripts : Lanes String) (lane : Lane) : String :=
  joinLines (scripts.get lane)

/-- One script with the commands of all lanes. -/
def flatText (scripts : Lanes String) : String :=
  joinLines scripts.flatten

end Lanes

/-- The thread with the given number, counted from 0. -/
def Lane.ofNat? : Nat → Option Lane
  | 0 => some .first
  | 1 => some .second
  | 2 => some .third
  | _ => none

/-- The number of the thread, counted from 0. -/
def Lane.toNat : Lane → Nat
  | first => 0
  | second => 1
  | third => 2

namespace Board

/-- The tiles of the board by thread. -/
def lanes (board : Board) : Lanes Token :=
  Lanes.ofTokens board.tokens

/-- The commands of the board by thread. -/
def scripts (board : Board) : Lanes String :=
  board.lanes.map Token.text

/-- The board that the board's own script gives, thread by thread. -/
def regroup (board : Board) : Except ScriptError Board :=
  ofScript board.scripts.flatText board.size

end Board

end Tileboard
