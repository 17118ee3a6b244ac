import RunConditions.Proofs.Parallel

/-!
# Numbered connections

A backend behaves the same when its connections are numbered in the order in
which they are opened, and a ledger is kept: how many have been opened, which
have been closed, and what has been asked over which connection with what
answer. Whatever is done to a link leads on: the ledger grows, and what is new
in it has come over the connection of the link or over a later one.
-/

set_option autoImplicit false

namespace RunConditions

inductive Exchange where
  | selected (connection : Nat) (sql : String) (answer : Except Error ResultSet)
  | updated (connection : Nat) (sql : String) (answer : Except Error (List Int))

def Exchange.connection : Exchange → Nat
  | selected n _ _ => n
  | updated n _ _ => n

structure Ledger where
  opened : Nat := 0
  closed : List Nat := []
  exchanges : List Exchange := []

/-- The backend with numbered connections and a ledger. -/
def Backend.numbered (b : Backend) : Backend where
  World := b.World × Ledger
  Handle := b.Handle × Nat
  connect p w :=
    match b.connect p w.1 with
    | (.ok h, w') => (.ok (h, w.2.opened), w', { w.2 with opened := w.2.opened + 1 })
    | (.error e, w') => (.error e, w', w.2)
  select h sql w :=
    let (answer, w') := b.select h.1 sql w.1
    (answer, w', { w.2 with exchanges := w.2.exchanges ++ [.selected h.2 sql answer] })
  update h sql w :=
    let (answer, w') := b.update h.1 sql w.1
    (answer, w', { w.2 with exchanges := w.2.exchanges ++ [.updated h.2 sql answer] })
  close h w :=
    let (answer, w') := b.close h.1 w.1
    (answer, w', { w.2 with closed := w.2.closed ++ [h.2] })
  isClosed h w := b.isClosed h.1 w.1

namespace Link

variable {b : Backend} {l l' l'' : Link b.numbered} {h : b.Handle × Nat}

def ledger (l : Link b.numbered) : Ledger :=
  l.world.2

def number (l : Link b.numbered) : Nat :=
  match l.handle with
  | some h => h.2
  | none => l.ledger.opened

theorem number_of_handle (hh : l.handle = some h) : l.number = h.2 := by
  rw [number, hh]

/-- The numbers of a link come from its ledger, and connections that have been
closed came before. -/
structure Numbered (l : Link b.numbered) : Prop where
  handle : ∀ h, l.handle = some h → h.2 < l.ledger.opened
  closed : ∀ n ∈ l.ledger.closed, n < l.number

theorem Numbered.number_le (hl : l.Numbered) : l.number ≤ l.ledger.opened := by
  cases hh : l.handle with
  | none => simp [number, hh]
  | some h =>
    rw [number_of_handle hh]
    exact Nat.le_of_lt (hl.handle h hh)

def Between (l l' : Link b.numbered) (x : Exchange) : Prop :=
  l.number ≤ x.connection ∧ x.connection < l'.ledger.opened

/-- From one link to another the ledger has grown, by nothing from before. -/
structure Leads (l l' : Link b.numbered) : Prop where
  numbered : l'.Numbered
  number : l.number ≤ l'.number
  opened : l.ledger.opened ≤ l'.ledger.opened
  grown : ∃ later, l'.ledger.exchanges = l.ledger.exchanges ++ later ∧
    ∀ x ∈ later, l.Between l' x

theorem Leads.trans (hl : l.Leads l') (hl' : l'.Leads l'') : l.Leads l'' where
  numbered := hl'.numbered
  number := Nat.le_trans hl.number hl'.number
  opened := Nat.le_trans hl.opened hl'.opened
  grown := by
    obtain ⟨later, hgrown, hbetween⟩ := hl.grown
    obtain ⟨later', hgrown', hbetween'⟩ := hl'.grown
    refine ⟨later ++ later', by rw [hgrown', hgrown, List.append_assoc], ?_⟩
    intro x hx
    rcases List.mem_append.mp hx with hx | hx
    · exact ⟨(hbetween x hx).1, Nat.lt_of_lt_of_le (hbetween x hx).2 hl'.opened⟩
    · exact ⟨Nat.le_trans hl.number (hbetween' x hx).1, (hbetween' x hx).2⟩

theorem Leads.of_exchanges_eq (hnumbered : l'.Numbered) (hnumber : l.number ≤ l'.number)
    (hopened : l.ledger.opened ≤ l'.ledger.opened)
    (hsame : l'.ledger.exchanges = l.ledger.exchanges) : l.Leads l' :=
  ⟨hnumbered, hnumber, hopened, [], by rw [hsame, List.append_nil], by simp⟩

theorem Leads.of_ledger_eq (hl : l.Numbered) (hhandle : l'.handle = l.handle)
    (hledger : l'.ledger = l.ledger) : l.Leads l' := by
  have hnumber : l'.number = l.number := by simp only [Link.number, hhandle, hledger]
  apply Leads.of_exchanges_eq
  · constructor
    · rw [hhandle, hledger]
      exact hl.handle
    · rw [hnumber, hledger]
      exact hl.closed
  · exact Nat.le_of_eq hnumber.symm
  · exact Nat.le_of_eq (congrArg Ledger.opened hledger.symm)
  · rw [hledger]

theorem Leads.refl (hl : l.Numbered) : l.Leads l :=
  .of_ledger_eq hl rfl rfl

theorem Leads.exchanged (hl : l.Numbered) (hh : l.handle = some h) {x : Exchange}
    (hx : x.connection = h.2) {w : b.numbered.World}
    (hw : w.2 = { l.ledger with exchanges := l.ledger.exchanges ++ [x] }) :
    l.Leads (l.moved w) := by
  have hnumber : (l.moved w).number = l.number := by
    rw [number_of_handle hh]
    exact number_of_handle hh
  have hopened : (l.moved w).ledger.opened = l.ledger.opened := (congrArg Ledger.opened hw :)
  refine ⟨⟨?_, ?_⟩, Nat.le_of_eq hnumber.symm, Nat.le_of_eq hopened.symm, [x], ?_, ?_⟩
  · rw [hopened]
    exact hl.handle
  · rw [hnumber]
    intro n hn
    exact hl.closed n (congrArg Ledger.closed hw ▸ hn)
  · exact congrArg Ledger.exchanges hw
  · intro y hy
    obtain rfl := List.mem_singleton.mp hy
    rw [Between, hx, number_of_handle hh, hopened]
    exact ⟨Nat.le_refl _, hl.handle h hh⟩

theorem leads_select (hl : l.Numbered) (sql : String) : l.Leads (final (select sql) l) := by
  cases hc : l.isConnected with
  | false =>
    rw [select, final, use_eq_error hc]
    exact .refl hl
  | true =>
    obtain ⟨h, hh, ho⟩ := isConnected_eq_true.mp hc
    rw [select, final, use_eq_act hh ho, ← final, final_act]
    exact .exchanged hl hh (x := .selected h.2 sql (b.select h.1 sql l.world.1).1) rfl rfl

theorem leads_update (hl : l.Numbered) (sql : String) : l.Leads (final (update sql) l) := by
  cases hc : l.isConnected with
  | false =>
    rw [update, final, use_eq_error hc]
    exact .refl hl
  | true =>
    obtain ⟨h, hh, ho⟩ := isConnected_eq_true.mp hc
    rw [update, final, use_eq_act hh ho, ← final, final_act]
    exact .exchanged hl hh (x := .updated h.2 sql (b.update h.1 sql l.world.1).1) rfl rfl

theorem leads_setParameters (hl : l.Numbered) (p : Parameters) :
    l.Leads (final (setParameters p) l) :=
  .of_ledger_eq hl rfl rfl

theorem leads_connect (hl : l.Numbered) : l.Leads (final connect l) := by
  cases hc : l.isConnected with
  | true =>
    rw [final, connect_eq_ok hc]
    exact .refl hl
  | false =>
    cases hp : l.parameters with
    | none =>
      rw [final, connect_of_no_parameters hc hp]
      exact .refl hl
    | some p =>
      rw [final, connect_of_parameters hc hp]
      rcases hconnect : b.connect p l.world.1 with ⟨_ | h, w⟩
      · simp only [Backend.numbered, hconnect]
        exact .of_ledger_eq hl rfl rfl
      · simp only [Backend.numbered, hconnect]
        apply Leads.of_exchanges_eq
        · constructor
          · rintro _ ⟨⟩
            exact Nat.lt_succ_self _
          · intro n hn
            exact Nat.lt_of_lt_of_le (hl.closed n hn) hl.number_le
        · exact hl.number_le
        · exact Nat.le_succ _
        · rfl

theorem Leads.of_no_handle (hl : l.Numbered) (hhandle : l'.handle = none)
    (hopened : l'.ledger.opened = l.ledger.opened)
    (hclosed : ∀ n ∈ l'.ledger.closed, n < l.ledger.opened)
    (hsame : l'.ledger.exchanges = l.ledger.exchanges) : l.Leads l' := by
  have hnumber : l'.number = l.ledger.opened := by simp only [Link.number, hhandle, hopened]
  apply Leads.of_exchanges_eq
  · constructor
    · intro h hh
      rw [hhandle] at hh
      cases hh
    · rw [hnumber]
      exact hclosed
  · rw [hnumber]
    exact hl.number_le
  · exact Nat.le_of_eq hopened.symm
  · exact hsame

theorem leads_forceDisconnect (hl : l.Numbered) : l.Leads (final forceDisconnect l) := by
  have hbefore : ∀ n ∈ l.ledger.closed, n < l.ledger.opened :=
    fun n hn => Nat.lt_of_lt_of_le (hl.closed n hn) hl.number_le
  cases hc : l.isConnected with
  | false =>
    rw [final, forceDisconnect_of_lost hc]
    exact .of_no_handle hl rfl rfl hbefore rfl
  | true =>
    obtain ⟨h, hh, ho⟩ := isConnected_eq_true.mp hc
    have hclosed : final forceDisconnect l =
        { world := ((b.close h.1 l.world.1).2,
            { l.ledger with closed := l.ledger.closed ++ [h.2] }) } := by
      rw [final, forceDisconnect_of_open hh ho]
      cases hclose : (b.close h.1 l.world.1).1 <;> simp only [Backend.numbered, hclose] <;> rfl
    rw [hclosed]
    refine .of_no_handle hl rfl rfl (fun n hn => ?_) rfl
    rcases List.mem_append.mp hn with hn | hn
    · exact hbefore n hn
    · rw [List.mem_singleton.mp hn]
      exact hl.handle h hh

theorem leads_disconnect (hl : l.Numbered) (openedHere : Bool) :
    l.Leads (final (disconnect openedHere) l) := by
  cases openedHere with
  | true => exact leads_forceDisconnect hl
  | false => exact .refl hl

end Link

/-- What happens to a manager: its callers act, or the database side changes by itself. -/
inductive Turn (b : Backend) where
  | act (x : Action)
  | drift (world : b.World)

namespace Manager

variable {b : Backend}

def begin (types : Types) (reader : Reader) (world : b.World) : Manager b.numbered :=
  .new types reader (world, {})

def after : Turn b → Manager b.numbered → Manager b.numbered
  | .act x, m => final x.run m
  | .drift world, m => m.moved (world, m.link.ledger)

def through : List (Turn b) → Manager b.numbered → Manager b.numbered
  | [], m => m
  | turn :: turns, m => through turns (after turn m)

end Manager
end RunConditions
