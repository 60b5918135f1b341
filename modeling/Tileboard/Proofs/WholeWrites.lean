import Tileboard.Proofs.DiskFiles

/-!
File systems in which a write is refused or whole.

`WholeWrites` says what it takes for a command to change all that it is asked to change, or nothing:
reading changes nothing, a path that cannot be opened is refused whatever the text, and one that can
be opened leads to a location that then holds the text, with every other as it was.

The laws hold of every disk.  They do not hold of a machine with devices, which drop or print what is
written to them.
-/

namespace Tileboard

/-- The text that bytes stand for, if they could be read. -/
def textOf : Except AccessError ByteArray → Except AccessError String
  | .error error => .error error
  | .ok bytes =>
    match String.fromUTF8? bytes with
    | some text => .ok text
    | none => .error .notText

/-- The locations of a file system, and what reading and writing do to them: a write fails when the
file is opened, or all of the text is written. -/
class WholeWrites (σ : Type) [FileAccess (StateM σ)] where
  /-- What files and folders are told apart by, whatever paths lead to them. -/
  Location : Type
  /-- What is at a location. -/
  entry : σ → Location → Option Entry
  /-- The bytes of the file at a path. -/
  read : σ → String → Except AccessError ByteArray
  /-- The location of the file that is opened at a path to be written. -/
  opens : σ → String → Except AccessError Location
  readText_apply : ∀ (path : String) (s : σ),
    (FileAccess.readText path : StateM σ _) s = (textOf (read s path), s)
  writeText_of_refused : ∀ {path : String} {s : σ} {error : AccessError},
    opens s path = .error error → ∀ text : String,
      (FileAccess.writeText path text : StateM σ _) s = (.error error, s)
  writeText_of_opened : ∀ {path : String} {s : σ} {location : Location},
    opens s path = .ok location → ∀ text : String, ∃ s',
      (FileAccess.writeText path text : StateM σ _) s = (.ok (), s') ∧
      entry s' location = some (.file text.toUTF8) ∧
      (∀ other, other ≠ location → entry s' other = entry s other) ∧
      read s' path = .ok text.toUTF8

namespace Disk

theorem readText_eq (disk : Disk) (path : String) :
    disk.readText path = textOf (disk.read path) := by
  unfold readText textOf
  rcases disk.read path with error | bytes
  · rfl
  · rfl

/-- A file that can be opened is put where it is opened. -/
theorem writeText_of_opens {disk : Disk} {path : String} {place : Place}
    (h : disk.opens path = .ok place) (text : String) :
    (FileAccess.writeText path text : StateM Disk _) disk =
      (.ok (), disk.put place (.file text.toUTF8)) := by
  show update (fun disk => disk.writeText path text) disk = _
  rw [update, writeText_eq, h]
  rfl

/-- **A disk writes all of a text or nothing.** -/
instance : WholeWrites Disk where
  Location := Place
  entry := lookup
  read := read
  opens := opens
  readText_apply path disk := by
    show (disk.readText path, disk) = _
    rw [readText_eq]
  writeText_of_refused {path disk error} h text := by
    show update (fun disk => disk.writeText path text) disk = _
    rw [update, writeText_eq, h]
    rfl
  writeText_of_opened {path disk place} h text := by
    obtain ⟨hleads, -⟩ := opens_eq_ok_iff.mp h
    have hwrite : disk.writeText path text = .ok (disk.put place (.file text.toUTF8)) := by
      rw [writeText_eq, h]
      rfl
    exact ⟨disk.put place (.file text.toUTF8), writeText_of_opens h text,
      lookup_put_self disk hleads.ne_nil _, fun other hother => lookup_put_of_ne disk hother _,
      read_of_writeText hwrite⟩

end Disk

end Tileboard
