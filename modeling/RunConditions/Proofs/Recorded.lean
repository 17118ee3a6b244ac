import RunConditions.Proofs.Frame

/-!
# Statements on record

A backend behaves the same when the statements that reach it are written down.
What was sent while a step ran is what the record has more at its end.
-/

set_option autoImplicit false

namespace RunConditions

/-- The backend with a record of all statements that have reached it, in order. -/
def Backend.recorded (b : Backend) : Backend where
  World := b.World × List String
  Handle := b.Handle
  connect p w := ((b.connect p w.1).1, (b.connect p w.1).2, w.2)
  select h sql w := ((b.select h sql w.1).1, (b.select h sql w.1).2, w.2 ++ [sql])
  update h sql w := ((b.update h sql w.1).1, (b.update h sql w.1).2, w.2 ++ [sql])
  close h w := ((b.close h w.1).1, (b.close h w.1).2, w.2)
  isClosed h w := b.isClosed h w.1

namespace Manager

variable {b : Backend}

def sent (m : Manager b.recorded) : List String :=
  m.link.world.2

theorem select_apply_recorded {m : Manager b.recorded} {h : b.Handle}
    (hh : m.link.handle = some h) (hopen : b.isClosed h m.link.world.1 = false) (sql : String) :
    select sql m =
      match b.select h sql m.link.world.1 with
      | (.ok result, w) => .ok result (m.moved (w, m.sent ++ [sql]))
      | (.error e, w) => .error e (m.moved (w, m.sent ++ [sql])) := by
  rw [select_apply (b := b.recorded) hh hopen]
  simp only [Backend.recorded, sent]
  rcases b.select h sql m.link.world.1 with ⟨_ | _, w⟩ <;> rfl

theorem update_apply_recorded {m : Manager b.recorded} {h : b.Handle}
    (hh : m.link.handle = some h) (hopen : b.isClosed h m.link.world.1 = false) (sql : String) :
    update sql m =
      match b.update h sql m.link.world.1 with
      | (.ok keys, w) => .ok keys (m.moved (w, m.sent ++ [sql]))
      | (.error e, w) => .error e (m.moved (w, m.sent ++ [sql])) := by
  rw [update_apply (b := b.recorded) hh hopen]
  simp only [Backend.recorded, sent]
  rcases b.update h sql m.link.world.1 with ⟨_ | _, w⟩ <;> rfl

end Manager
end RunConditions
