/-
What waits for a subscriber.

There is room for sixty-four announcements. As long as there is room one
more announcement waits behind the others, and nothing is lost; without
room the oldest is dropped for it and counted (`gains_announce`). So what
waits are at any time the last sixty-four of all files announced, in the
order of their announcements, and the count is of all that came before
them (`Bulletin.Tells`, `Tells.announce`).

Both are said without the function that announces: a bulletin that keeps
nothing tells of no file.
-/
import BatchAdmin.Publishing.Publisher

namespace BatchAdmin.Bulletin

variable {b after : Bulletin} {file : FileInfo} {files : List FileInfo}

-- ======================================================== one announcement

/-- A subscriber to whom the first bulletin told everything is told by the
second of one more file, and of nothing else. -/
structure Gains (b : Bulletin) (file : FileInfo) (after : Bulletin) : Prop where
  /-- The file waits behind the others; the oldest goes if there is no
  room. -/
  waiting : after.waiting
    = (b.waiting ++ [file]).drop (b.waiting.length + 1 - 64)
  /-- What goes is counted. -/
  lost : after.lost = b.lost + (b.waiting.length + 1 - 64)

theorem gains_announce (b : Bulletin) (file : FileInfo) :
    b.Gains file (b.announce file) := by
  unfold announce
  constructor
  · dsimp only
    rw [List.length_append, List.length_singleton]
    rfl
  · dsimp only
    rw [List.length_append, List.length_singleton]
    rfl

/-- The file is the last that waits. -/
theorem Gains.getLast?_waiting (h : b.Gains file after) :
    after.waiting.getLast? = some file := by
  rw [h.waiting, List.drop_append_of_le_length (by omega)]
  exact List.getLast?_concat

/-- With room for it nothing is lost. -/
theorem Gains.of_room (h : b.Gains file after) (hroom : b.waiting.length < 64) :
    after.waiting = b.waiting ++ [file] ∧ after.lost = b.lost := by
  have hnone : b.waiting.length + 1 - 64 = 0 := by omega
  rw [h.waiting, h.lost, hnone]
  exact ⟨rfl, rfl⟩

-- ======================================================= all announcements

/-- The bulletin tells a subscriber of these files, once of each. -/
structure Tells (b : Bulletin) (files : List FileInfo) : Prop where
  /-- The last of them wait, in their order. -/
  waiting : b.waiting = files.drop (files.length - 64)
  /-- The others are counted as lost. -/
  lost : b.lost = files.length - 64

theorem tells_empty : Bulletin.empty.Tells [] :=
  ⟨rfl, rfl⟩

/-- An announcement tells of one file more. -/
theorem Tells.gains (h : b.Tells files) (hg : b.Gains file after) :
    after.Tells (files ++ [file]) := by
  have hlength : b.waiting.length = files.length - (files.length - 64) := by
    rw [h.waiting, List.length_drop]
  constructor
  · rw [hg.waiting, hlength, h.waiting, List.length_append,
      List.length_singleton,
      ← List.drop_append_of_le_length (Nat.sub_le ..), List.drop_drop]
    exact congrArg (fun n => (files ++ [file]).drop n) (by omega)
  · rw [hg.lost, hlength, h.lost, List.length_append, List.length_singleton]
    omega

theorem Tells.announce (h : b.Tells files) (file : FileInfo) :
    (b.announce file).Tells (files ++ [file]) :=
  h.gains (gains_announce b file)

end BatchAdmin.Bulletin
