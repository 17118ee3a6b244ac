import RunConditions.Database.Link
import RunConditions.Proofs.Alike

/-!
# What the link does

Statements reach the database side exactly while the connection is open. What
they change is the state of the database side alone.
-/

set_option autoImplicit false

namespace RunConditions
namespace Link

variable {b : Backend} {α : Type}

def moved (l : Link b) (w : b.World) : Link b :=
  { l with world := w }

theorem outcome_act (f : b.World → Except Error α × b.World) (l : Link b) :
    outcome (act f) l = (f l.world).1 := by
  simp only [outcome, act]
  rcases f l.world with ⟨_ | _, w⟩ <;> rfl

theorem final_act (f : b.World → Except Error α × b.World) (l : Link b) :
    final (act f) l = l.moved (f l.world).2 := by
  simp only [final, act, moved]
  rcases f l.world with ⟨_ | _, w⟩ <;> rfl

theorem isConnected_eq_true {l : Link b} :
    l.isConnected = true ↔ ∃ h, l.handle = some h ∧ b.isClosed h l.world = false := by
  simp only [isConnected]
  cases l.handle <;> simp

theorem isConnected_of_closed {l : Link b} {h : b.Handle} (hh : l.handle = some h)
    (hc : b.isClosed h l.world = true) : l.isConnected = false := by
  simp [isConnected, hh, hc]

theorem use_eq_act {l : Link b} {h : b.Handle} (hh : l.handle = some h)
    (hc : b.isClosed h l.world = false)
    (f : b.Handle → String → b.World → Except Error α × b.World) (sql : String) :
    use f sql l = act (f h sql) l := by
  simp only [use, bind_apply, get_apply, hh, hc, Bool.false_eq_true, if_false]

theorem use_eq_error {l : Link b} (h : l.isConnected = false)
    (f : b.Handle → String → b.World → Except Error α × b.World) (sql : String) :
    use f sql l = .error (.query sql .notOpen) l := by
  simp only [isConnected] at h
  simp only [use, bind_apply, get_apply]
  cases hh : l.handle with
  | none => rfl
  | some handle =>
    simp only [hh, Bool.not_eq_false'] at h
    simp only [h, if_true, throw_apply]

theorem final_use (f : b.Handle → String → b.World → Except Error α × b.World) (sql : String)
    (l : Link b) : ∃ w, final (use f sql) l = l.moved w := by
  cases hc : l.isConnected with
  | false =>
    refine ⟨l.world, ?_⟩
    rw [final, use_eq_error hc]
    rfl
  | true =>
    obtain ⟨h, hh, ho⟩ := isConnected_eq_true.mp hc
    refine ⟨(f h sql l.world).2, ?_⟩
    rw [final, use_eq_act hh ho, ← final, final_act]

theorem connect_eq_ok {l : Link b} (h : l.isConnected = true) : connect l = .ok false l := by
  simp only [connect, bind_apply, get_apply, h, if_true, pure_apply]

theorem connect_of_no_parameters {l : Link b} (h : l.isConnected = false)
    (hp : l.parameters = none) : connect l = .error (.configuration .noParameters) l := by
  simp only [connect, bind_apply, get_apply, h, Bool.false_eq_true, if_false, hp, throw_apply]

theorem connect_of_parameters {l : Link b} (h : l.isConnected = false) {p : Parameters}
    (hp : l.parameters = some p) :
    connect l = match (b.connect p l.world).1 with
      | .ok c => .ok true { l with handle := some c, world := (b.connect p l.world).2 }
      | .error e => .error e (l.moved (b.connect p l.world).2) := by
  simp only [connect, bind_apply, get_apply, h, Bool.false_eq_true, if_false, hp, act]
  rcases b.connect p l.world with ⟨_ | _, w⟩ <;> simp [moved, hp]

theorem forceDisconnect_of_open {l : Link b} {h : b.Handle} (hh : l.handle = some h)
    (hc : b.isClosed h l.world = false) :
    forceDisconnect l = match (b.close h l.world).1 with
      | .ok _ => .ok true { world := (b.close h l.world).2 }
      | .error e => .error e { world := (b.close h l.world).2 } := by
  simp only [forceDisconnect, bind_apply, get_apply, set_apply, hh, hc]
  simp only [Bool.false_eq_true, if_false, bind_apply, act]
  rcases b.close h l.world with ⟨_ | _, w⟩ <;> rfl

theorem forceDisconnect_of_lost {l : Link b} (h : l.isConnected = false) :
    forceDisconnect l = .ok l.handle.isSome { world := l.world } := by
  simp only [isConnected] at h
  simp only [forceDisconnect, bind_apply, get_apply, set_apply]
  cases hh : l.handle with
  | none => rfl
  | some handle =>
    simp only [hh, Bool.not_eq_false'] at h
    simp only [h, if_true, pure_apply, Option.isSome_some]

theorem final_forceDisconnect (l : Link b) : ∃ w, final forceDisconnect l = { world := w } := by
  cases hc : l.isConnected with
  | false => exact ⟨l.world, by rw [final, forceDisconnect_of_lost hc]⟩
  | true =>
    obtain ⟨h, hh, ho⟩ := isConnected_eq_true.mp hc
    refine ⟨(b.close h l.world).2, ?_⟩
    rw [final, forceDisconnect_of_open hh ho]
    cases (b.close h l.world).1 <;> rfl

end Link
end RunConditions
