import Mathlib.Data.List.Forall2
import RunConditions.Database.Server
import RunConditions.Proofs.Numbered
import RunConditions.Proofs.Selection

/-!
# The password stays where it is

Two runs that differ in nothing but passwords cannot be told apart by what the
manager and the commands answer, by what reaches the database, by how the
connection is described, or by anything else that the manager holds. It is
taken for granted that the database side itself answers the same.
-/

set_option autoImplicit false

namespace RunConditions

structure Properties.SameButPassword (properties properties' : Properties) : Prop where
  other : ∀ key, key ≠ "password" → properties.get? key = properties'.get? key
  password : (properties.get? "password").isSome = (properties'.get? "password").isSome

namespace Parameters

/-- The parameters without their password. -/
def concealed (p : Parameters) : Parameters :=
  { p with password := "" }

theorem ofProperties_concealed {properties properties' : Properties}
    (h : properties.SameButPassword properties') :
    (ofProperties properties).map concealed = (ofProperties properties').map concealed := by
  have hport : readPort properties = readPort properties' := by
    rw [readPort, readPort, h.other "port" (by decide)]
  have hrequired : ∀ key, key ≠ "password" →
      required properties key = required properties' key := by
    intro key hkey
    rw [required, required, h.other key hkey]
  have hpassword := h.password
  simp only [ofProperties, hport, hrequired "user" (by decide), hrequired "database" (by decide),
    hrequired "hostname" (by decide), h.other "driver" (by decide)]
  cases readPort properties' with
  | error e => rfl
  | ok port =>
    cases required properties' "user" with
    | error e => rfl
    | ok user =>
      cases hp : properties.get? "password" with
      | none =>
        cases hp' : properties'.get? "password" with
        | none => simp only [required, hp, hp']
        | some password' =>
          rw [hp, hp'] at hpassword
          cases hpassword
      | some password =>
        cases hp' : properties'.get? "password" with
        | none =>
          rw [hp, hp'] at hpassword
          cases hpassword
        | some password' =>
          have hread : required properties "password" = .ok password := by rw [required, hp]
          have hread' : required properties' "password" = .ok password' := by rw [required, hp']
          simp only [hread, hread']
          cases required properties' "database" with
          | error e => rfl
          | ok database =>
            cases required properties' "hostname" with
            | error e => rfl
            | ok hostname => rfl

end Parameters

def SameOpening {α : Type} (handles : α → α → Prop) : Except Error α → Except Error α → Prop
  | .ok h, .ok h' => handles h h'
  | .error e, .error e' => e = e'
  | _, _ => False

/-- What the database side answers does not depend on the password, as told by which
connections and which of its states correspond. -/
structure Backend.Discreet (b : Backend) (handles : b.Handle → b.Handle → Prop)
    (worlds : b.World → b.World → Prop) : Prop where
  connect : ∀ p p' w w', p.concealed = p'.concealed → worlds w w' →
    SameOpening handles (b.connect p w).1 (b.connect p' w').1 ∧
      worlds (b.connect p w).2 (b.connect p' w').2
  select : ∀ h h' sql w w', handles h h' → worlds w w' →
    (b.select h sql w).1 = (b.select h' sql w').1 ∧
      worlds (b.select h sql w).2 (b.select h' sql w').2
  update : ∀ h h' sql w w', handles h h' → worlds w w' →
    (b.update h sql w).1 = (b.update h' sql w').1 ∧
      worlds (b.update h sql w).2 (b.update h' sql w').2
  close : ∀ h h' w w', handles h h' → worlds w w' →
    (b.close h w).1 = (b.close h' w').1 ∧ worlds (b.close h w).2 (b.close h' w').2
  isClosed : ∀ h h' w w', handles h h' → worlds w w' → b.isClosed h w = b.isClosed h' w'

variable {b : Backend} {handles : b.Handle → b.Handle → Prop} {worlds : b.World → b.World → Prop}

theorem Backend.Discreet.numbered (hb : b.Discreet handles worlds) :
    b.numbered.Discreet (fun h h' => handles h.1 h'.1 ∧ h.2 = h'.2)
      (fun w w' => worlds w.1 w'.1 ∧ w.2 = w'.2) where
  connect := by
    rintro p p' ⟨w, ledger⟩ ⟨w', _⟩ hp ⟨hw, rfl⟩
    obtain ⟨hopen, hworlds⟩ := hb.connect p p' w w' hp hw
    simp only [Backend.numbered]
    rcases hc : b.connect p w with ⟨e | h, v⟩ <;>
      rcases hc' : b.connect p' w' with ⟨e' | h', v'⟩ <;>
      rw [hc, hc'] at hopen hworlds
    · exact ⟨hopen, hworlds, rfl⟩
    · cases hopen
    · cases hopen
    · exact ⟨⟨hopen, rfl⟩, hworlds, rfl⟩
  select := by
    rintro ⟨h, n⟩ ⟨h', _⟩ sql ⟨w, ledger⟩ ⟨w', _⟩ ⟨hh, rfl⟩ ⟨hw, rfl⟩
    obtain ⟨hanswer, hworlds⟩ := hb.select h h' sql w w' hh hw
    simp only [Backend.numbered, hanswer]
    exact ⟨trivial, hworlds, trivial⟩
  update := by
    rintro ⟨h, n⟩ ⟨h', _⟩ sql ⟨w, ledger⟩ ⟨w', _⟩ ⟨hh, rfl⟩ ⟨hw, rfl⟩
    obtain ⟨hanswer, hworlds⟩ := hb.update h h' sql w w' hh hw
    simp only [Backend.numbered, hanswer]
    exact ⟨trivial, hworlds, trivial⟩
  close := by
    rintro ⟨h, n⟩ ⟨h', _⟩ ⟨w, ledger⟩ ⟨w', _⟩ ⟨hh, rfl⟩ ⟨hw, rfl⟩
    obtain ⟨hanswer, hworlds⟩ := hb.close h h' w w' hh hw
    simp only [Backend.numbered]
    exact ⟨hanswer, hworlds, trivial⟩
  isClosed := by
    rintro ⟨h, n⟩ ⟨h', _⟩ ⟨w, ledger⟩ ⟨w', _⟩ ⟨hh, -⟩ ⟨hw, -⟩
    exact hb.isClosed h h' w w' hh hw

/-- A backend is discreet if it opens the same connection whatever the password is. -/
theorem Backend.discreet_of_connect (h : ∀ p w, b.connect p w = b.connect p.concealed w) :
    b.Discreet Eq Eq where
  connect := by
    rintro p p' w _ hp rfl
    have hsame : b.connect p w = b.connect p' w := by rw [h p, h p', hp]
    rw [hsame]
    refine ⟨?_, rfl⟩
    cases (b.connect p' w).1 <;> exact rfl
  select := by
    rintro c _ sql w _ rfl rfl
    exact ⟨rfl, rfl⟩
  update := by
    rintro c _ sql w _ rfl rfl
    exact ⟨rfl, rfl⟩
  close := by
    rintro c _ w _ rfl rfl
    exact ⟨rfl, rfl⟩
  isClosed := by
    rintro c _ w _ rfl rfl
    rfl

theorem Server.backend_discreet : Server.backend.Discreet Eq Eq :=
  Backend.discreet_of_connect fun _ _ => rfl

namespace Link

structure SameButPassword (handles : b.Handle → b.Handle → Prop) (worlds : b.World → b.World → Prop)
    (l l' : Link b) : Prop where
  parameters : l.parameters.map Parameters.concealed = l'.parameters.map Parameters.concealed
  handle : Option.Rel handles l.handle l'.handle
  world : worlds l.world l'.world

section Steps

variable {l l' : Link b} (hb : b.Discreet handles worlds)
include hb

theorem SameButPassword.connection (h : SameButPassword handles worlds l l') :
    (l.isConnected = false ∧ l'.isConnected = false) ∨
      ∃ c c', l.handle = some c ∧ l'.handle = some c' ∧ handles c c' ∧
        b.isClosed c l.world = false ∧ b.isClosed c' l'.world = false := by
  have hhandle := h.handle
  cases hc : l.handle with
  | none =>
    rw [hc] at hhandle
    cases hc' : l'.handle with
    | none => exact Or.inl ⟨by simp [isConnected, hc], by simp [isConnected, hc']⟩
    | some c' =>
      rw [hc'] at hhandle
      cases hhandle
  | some c =>
    rw [hc] at hhandle
    cases hc' : l'.handle with
    | none =>
      rw [hc'] at hhandle
      cases hhandle
    | some c' =>
      rw [hc'] at hhandle
      cases hhandle with
      | some hcc =>
        have hclosed := hb.isClosed c c' l.world l'.world hcc h.world
        cases ho : b.isClosed c l.world with
        | true =>
          exact Or.inl ⟨isConnected_of_closed hc ho, isConnected_of_closed hc' (hclosed ▸ ho)⟩
        | false => exact Or.inr ⟨c, c', rfl, rfl, hcc, ho, hclosed ▸ ho⟩

theorem SameButPassword.isConnected (h : SameButPassword handles worlds l l') :
    l.isConnected = l'.isConnected := by
  rcases h.connection hb with ⟨hl, hl'⟩ | ⟨c, c', hc, hc', -, ho, ho'⟩
  · rw [hl, hl']
  · rw [isConnected_eq_true.mpr ⟨c, hc, ho⟩, isConnected_eq_true.mpr ⟨c', hc', ho'⟩]

theorem use_alike {α : Type} (sql : String)
    {f : b.Handle → String → b.World → Except Error α × b.World}
    (hf : ∀ h h' w w', handles h h' → worlds w w' →
      (f h sql w).1 = (f h' sql w').1 ∧ worlds (f h sql w).2 (f h' sql w').2) :
    Alike (SameButPassword handles worlds) (use f sql) (use f sql) := by
  intro l l' h
  rcases h.connection hb with ⟨hl, hl'⟩ | ⟨c, c', hc, hc', hcc, ho, ho'⟩
  · rw [outcome, outcome, final, final, use_eq_error hl, use_eq_error hl']
    exact ⟨rfl, h⟩
  · obtain ⟨hanswer, hworlds⟩ := hf c c' l.world l'.world hcc h.world
    have hact : use f sql l = act (f c sql) l := use_eq_act hc ho f sql
    have hact' : use f sql l' = act (f c' sql) l' := use_eq_act hc' ho' f sql
    rw [outcome, outcome, final, final, hact, hact', ← outcome, ← outcome, ← final, ← final,
      outcome_act, outcome_act, final_act, final_act]
    exact ⟨hanswer, h.parameters, h.handle, hworlds⟩

theorem connect_alike : Alike (SameButPassword handles worlds) (connect (b := b)) connect := by
  intro l l' h
  have hconnected := h.isConnected hb
  cases hc : l.isConnected with
  | true =>
    rw [outcome, outcome, final, final, connect_eq_ok hc, connect_eq_ok (hconnected ▸ hc)]
    exact ⟨rfl, h⟩
  | false =>
    have hc' : l'.isConnected = false := hconnected ▸ hc
    have hparameters := h.parameters
    cases hp : l.parameters with
    | none =>
      rw [hp] at hparameters
      have hp' : l'.parameters = none := Option.map_eq_none_iff.mp hparameters.symm
      rw [outcome, outcome, final, final, connect_of_no_parameters hc hp,
        connect_of_no_parameters hc' hp']
      exact ⟨rfl, h⟩
    | some p =>
      rw [hp] at hparameters
      obtain ⟨p', hp', hpp⟩ := Option.map_eq_some_iff.mp hparameters.symm
      obtain ⟨hopen, hworlds⟩ := hb.connect p p' l.world l'.world hpp.symm h.world
      rw [outcome, outcome, final, final, connect_of_parameters hc hp,
        connect_of_parameters hc' hp']
      cases ho : (b.connect p l.world).1 with
      | error e =>
        cases ho' : (b.connect p' l'.world).1 with
        | error e' =>
          rw [ho, ho'] at hopen
          exact ⟨congrArg Except.error hopen, h.parameters, h.handle, hworlds⟩
        | ok c' =>
          rw [ho, ho'] at hopen
          cases hopen
      | ok c =>
        cases ho' : (b.connect p' l'.world).1 with
        | error e' =>
          rw [ho, ho'] at hopen
          cases hopen
        | ok c' =>
          rw [ho, ho'] at hopen
          exact ⟨rfl, h.parameters, .some hopen, hworlds⟩

theorem forceDisconnect_alike :
    Alike (SameButPassword handles worlds) (forceDisconnect (b := b)) forceDisconnect := by
  intro l l' h
  rcases h.connection hb with ⟨hl, hl'⟩ | ⟨c, c', hc, hc', hcc, ho, ho'⟩
  · have hsome : l.handle.isSome = l'.handle.isSome := by
      have hrel := h.handle
      generalize l.handle = o, l'.handle = o' at hrel
      cases hrel <;> rfl
    rw [outcome, outcome, final, final, forceDisconnect_of_lost hl, forceDisconnect_of_lost hl',
      hsome]
    exact ⟨rfl, rfl, .none, h.world⟩
  · obtain ⟨hanswer, hworlds⟩ := hb.close c c' l.world l'.world hcc h.world
    rw [outcome, outcome, final, final, forceDisconnect_of_open hc ho,
      forceDisconnect_of_open hc' ho', hanswer]
    cases (b.close c' l'.world).1 with
    | error e => exact ⟨rfl, rfl, .none, hworlds⟩
    | ok _ => exact ⟨rfl, rfl, .none, hworlds⟩

end Steps

theorem setParameters_alike {p p' : Parameters} (hp : p.concealed = p'.concealed) :
    Alike (SameButPassword handles worlds) (setParameters (b := b) p) (setParameters p') :=
  Alike.modify fun _ _ h => ⟨congrArg some hp, h.handle, h.world⟩

end Link

namespace Manager

def SameButPassword (handles : b.Handle → b.Handle → Prop) (worlds : b.World → b.World → Prop)
    (m m' : Manager b) : Prop :=
  ∃ l', m.link.SameButPassword handles worlds l' ∧ m' = { m with link := l' }

theorem onLink_sameButPassword {α : Type} {x y : EStateM Error (Link b) α}
    (h : Alike (Link.SameButPassword handles worlds) x y) :
    Alike (SameButPassword handles worlds) (onLink x) (onLink y) := by
  rintro m _ ⟨l', hl, rfl⟩
  rw [outcome_onLink, outcome_onLink, final_onLink, final_onLink]
  obtain ⟨houtcome, hfinal⟩ := h m.link l' hl
  exact ⟨houtcome, final y l', hfinal, rfl⟩

theorem setParameters_sameButPassword {p p' : Parameters} (hp : p.concealed = p'.concealed) :
    Alike (SameButPassword handles worlds) (setParameters (b := b) p) (setParameters p') :=
  onLink_sameButPassword (Link.setParameters_alike hp)

theorem conclude_setParameters_alike {r r' : Except Error Parameters}
    (h : r.map Parameters.concealed = r'.map Parameters.concealed) :
    Alike (SameButPassword handles worlds) (conclude r >>= setParameters (b := b))
      (conclude r' >>= setParameters) := by
  cases r with
  | error e =>
    cases r' with
    | error e' =>
      cases h
      exact Alike.throw e
    | ok p' => cases h
  | ok p =>
    cases r' with
    | error e' => cases h
    | ok p' => exact setParameters_sameButPassword (Except.ok.inj h)

theorem SameButPassword.describe {m m' : Manager b} (h : SameButPassword handles worlds m m') :
    m.link.parameters.map Parameters.describe = m'.link.parameters.map Parameters.describe := by
  obtain ⟨l', hl, rfl⟩ := h
  have hconcealed : Parameters.describe = Parameters.describe ∘ Parameters.concealed := rfl
  rw [hconcealed, ← Option.map_map, hl.parameters, Option.map_map]

theorem SameButPassword.connectionString? {m m' : Manager b}
    (h : SameButPassword handles worlds m m') : m.connectionString? = m'.connectionString? := by
  obtain ⟨l', hl, rfl⟩ := h
  have hconcealed : Parameters.connectionString =
      Parameters.connectionString ∘ Parameters.concealed := rfl
  rw [Manager.connectionString?, Manager.connectionString?, hconcealed, ← Option.map_map,
    hl.parameters, Option.map_map]

theorem sameButPassword_parallel (hb : b.Discreet handles worlds) :
    Parallel (SameButPassword handles worlds) where
  types := by
    rintro m _ ⟨l', -, rfl⟩
    rfl
  view := by
    intro m m' h
    have hstring := h.connectionString?
    obtain ⟨l', hl, rfl⟩ := h
    have hconnected : m.isConnected = l'.isConnected := hl.isConnected hb
    simp only [Manager.view, hstring, hconnected]
    rfl
  reader := by
    rintro m _ ⟨l', -, rfl⟩
    rfl
  connect := onLink_sameButPassword (Link.connect_alike hb)
  disconnect openedHere := by
    cases openedHere with
    | true => exact onLink_sameButPassword (Link.forceDisconnect_alike hb)
    | false => exact onLink_sameButPassword (Alike.pure false)
  forceDisconnect := onLink_sameButPassword (Link.forceDisconnect_alike hb)
  setParameters p := setParameters_sameButPassword rfl
  select sql := onLink_sameButPassword (Link.use_alike hb sql fun h h' => hb.select h h' sql)
  update sql := onLink_sameButPassword (Link.use_alike hb sql fun h h' => hb.update h h' sql)
  readingBy := by
    rintro m _ reader ⟨l', hl, rfl⟩
    exact ⟨l', hl, rfl⟩
  shared := by
    rintro m _ ⟨l', hl, rfl⟩
    exact ⟨l', hl, rfl⟩
  withoutRecords := by
    rintro m _ ⟨l', hl, rfl⟩
    exact ⟨l', hl, rfl⟩
  setUp := by
    rintro m _ config s ⟨l', hl, rfl⟩ -
    exact ⟨l', hl, rfl⟩
  switched := by
    rintro m _ detector run ⟨l', hl, rfl⟩
    exact ⟨l', hl, rfl⟩

theorem lookup_sameButPassword (hb : b.Discreet handles worlds) (depth : Nat) (k : Kind)
    (name : String) :
    Alike (SameButPassword handles worlds) (lookup depth k name) (lookup depth k name) := by
  apply (sameButPassword_parallel hb).lookup_alike
  · rintro m _ ⟨l', -, rfl⟩
    rfl
  · rintro m _ ⟨l', -, rfl⟩
    rfl
  · rintro m _ k name payload ⟨l', hl, rfl⟩
    exact ⟨l', hl, rfl⟩

end Manager

/-- Turns of two runs that differ in nothing but the password of parameters that the
manager is given or reads from a property file, and in what the database side makes
of it. -/
inductive Turn.SameButPassword (worlds : b.World → b.World → Prop) : Turn b → Turn b → Prop
  | same (x : Action) : SameButPassword worlds (.act x) (.act x)
  | setParameters {p p' : Parameters} (hp : p.concealed = p'.concealed) :
      SameButPassword worlds (.act (.call (.setParameters p))) (.act (.call (.setParameters p')))
  | setProperties {files files' : Files} {path path' text text' : String}
      (hfile : files path = .text text) (hfile' : files' path' = .text text')
      (hsame : (Properties.ofText text).SameButPassword (Properties.ofText text')) :
      SameButPassword worlds (.act (.call (.setProperties files path)))
        (.act (.call (.setProperties files' path')))
  | drift {w w' : b.World} (hw : worlds w w') : SameButPassword worlds (.drift w) (.drift w')

namespace Manager

def answer : Turn b → Manager b.numbered → Option ((α : Type) × Except Error α)
  | .act x, m => some ⟨x.Answer, outcome x.run m⟩
  | .drift _, _ => none

def answers : List (Turn b) → Manager b.numbered →
    List (Option ((α : Type) × Except Error α) × Manager b.numbered)
  | [], _ => []
  | turn :: turns, m => (answer turn m, after turn m) :: answers turns (after turn m)

abbrev Indistinct (handles : b.Handle → b.Handle → Prop) (worlds : b.World → b.World → Prop) :
    Manager b.numbered → Manager b.numbered → Prop :=
  SameButPassword (fun h h' => handles h.1 h'.1 ∧ h.2 = h'.2)
    (fun w w' => worlds w.1 w'.1 ∧ w.2 = w'.2)

theorem turn_alike (hb : b.Discreet handles worlds) {turn turn' : Turn b}
    (hturn : turn.SameButPassword worlds turn') {m m' : Manager b.numbered}
    (h : Indistinct handles worlds m m') :
    answer turn m = answer turn' m' ∧
      Indistinct handles worlds (after turn m) (after turn' m') := by
  cases hturn with
  | same x =>
    have hlook := lookup_sameButPassword hb.numbered nestingLimit
    obtain ⟨houtcome, hafter⟩ :=
      (sameButPassword_parallel hb.numbered).action_alike hlook x m m' h
    exact ⟨by rw [answer, answer, houtcome], hafter⟩
  | setParameters hp => exact ⟨rfl, (setParameters_sameButPassword hp m m' h).2⟩
  | @setProperties files files' path path' text text' hfile hfile' hsame =>
    have hread : Parameters.ofFile files path = Parameters.ofProperties (.ofText text) := by
      simp only [Parameters.ofFile, Files.read, hfile]
      rfl
    have hread' : Parameters.ofFile files' path' = Parameters.ofProperties (.ofText text') := by
      simp only [Parameters.ofFile, Files.read, hfile']
      rfl
    have hconcealed := Parameters.ofProperties_concealed hsame
    rw [← hread, ← hread'] at hconcealed
    have halike : Alike (Indistinct handles worlds) (setProperties (b := b.numbered) files path)
        (setProperties files' path') :=
      conclude_setParameters_alike hconcealed
    obtain ⟨houtcome, hafter⟩ := halike m m' h
    exact ⟨congrArg (fun o => some (Sigma.mk Unit o)) houtcome, hafter⟩
  | @drift w w' hw =>
    obtain ⟨l', hl, rfl⟩ := h
    exact ⟨rfl, l'.moved (w', l'.ledger), ⟨hl.parameters, hl.handle, hw, hl.world.2⟩, rfl⟩

/-- If the database side does not tell the password, then two runs that differ in
nothing but passwords answer the same turn by turn, errors included, and after each
turn all that the database has been sent and has answered, the connection string, the
description of the parameters and everything else about the manager but the password
are the same. -/
theorem password_unseen (hb : b.Discreet handles worlds) {turns turns' : List (Turn b)}
    (hturns : List.Forall₂ (Turn.SameButPassword worlds) turns turns') {m m' : Manager b.numbered}
    (h : Indistinct handles worlds m m') :
    List.Forall₂ (fun s s' => s.1 = s'.1 ∧ s.2.link.ledger = s'.2.link.ledger ∧
        s.2.connectionString? = s'.2.connectionString? ∧
        s.2.link.parameters.map Parameters.describe =
          s'.2.link.parameters.map Parameters.describe ∧
        Indistinct handles worlds s.2 s'.2)
      (answers turns m) (answers turns' m') := by
  induction hturns generalizing m m' with
  | nil => exact .nil
  | cons hturn _ ih =>
    obtain ⟨hanswer, hafter⟩ := turn_alike hb hturn h
    refine .cons ⟨hanswer, ?_, hafter.connectionString?, hafter.describe, hafter⟩ (ih hafter)
    obtain ⟨l', hl, hlink⟩ := hafter
    rw [hlink]
    exact hl.world.2

end Manager

namespace Server

def oneRecord : State where
  replies :=
    [{ pattern := .exactly "SELECT * FROM conditions ORDER BY id"
       rows := [[⟨"id", "INT4", some (2 : Int)⟩, ⟨"run_start", "INT4", some (0 : Int)⟩,
         ⟨"run_end", "INT4", some (1000 : Int)⟩, ⟨"name", "TEXT", some "bad"⟩,
         ⟨"table_name", "TEXT", some "bad_channels"⟩, ⟨"collection_id", "INT4", some (7 : Int)⟩,
         ⟨"tag", "TEXT", none⟩, ⟨"created_by", "TEXT", none⟩, ⟨"notes", "TEXT", none⟩]] }]

def propertyText (password : String) : String :=
  "user=reader\npassword=" ++ password ++ "\ndatabase=conditions\nhostname=localhost\n"

def session (first second : String) : List (Turn backend) :=
  [.act (.call (.configure Script.overlappingConfig)),
   .act (.call (.setProperties (fun _ => .text (propertyText first)) "db.properties")),
   .act (.print ⟨"bad", none⟩),
   .act (.call (.setProperties (fun _ => .text (propertyText first)) "db.properties")),
   .act (.call (.setDetector "HPS-TestRun-v5" 150)),
   .act (.call (.getConditions (.collection (.channel .badChannel)) "bad")),
   .act (.call .forceDisconnect),
   .act (.call (.setParameters ⟨"reader", second, "conditions", "localhost", 5432, "mysql"⟩)),
   .act (.call (.setDetector "HPS-TestRun-v5" 200))]

def newManager : Manager backend.numbered :=
  .begin .standard (.base Files.none []) oneRecord

theorem propertyTexts_same :
    (Properties.ofText (propertyText "apple")).SameButPassword
      (.ofText (propertyText "pear")) := by
  have happle : Properties.ofText (propertyText "apple") =
      ⟨[("hostname", "localhost"), ("database", "conditions"), ("password", "apple"),
        ("user", "reader")]⟩ := by decide +kernel
  have hpear : Properties.ofText (propertyText "pear") =
      ⟨[("hostname", "localhost"), ("database", "conditions"), ("password", "pear"),
        ("user", "reader")]⟩ := by decide +kernel
  rw [happle, hpear]
  refine ⟨fun key hkey => ?_, rfl⟩
  simp [Properties.get?, List.lookup_cons, beq_eq_false_iff_ne.mpr hkey]

theorem passwords_unseen :
    (Manager.through (session "apple" "cherry") newManager).link.parameters.map (·.password) =
        some "cherry" ∧
      (Manager.through (session "pear" "plum") newManager).link.parameters.map (·.password) =
        some "plum" ∧
      (Manager.through (session "pear" "plum") newManager).link.ledger.exchanges.map
          Exchange.connection = [0, 1, 1] ∧
      List.Forall₂ (fun s s' => s.1 = s'.1 ∧ s.2.link.ledger = s'.2.link.ledger ∧
          s.2.connectionString? = s'.2.connectionString? ∧
          s.2.link.parameters.map Parameters.describe =
            s'.2.link.parameters.map Parameters.describe ∧
          Manager.Indistinct Eq Eq s.2 s'.2)
        (Manager.answers (session "apple" "cherry") newManager)
        (Manager.answers (session "pear" "plum") newManager) := by
  refine ⟨by decide +kernel, by decide +kernel, by decide +kernel,
    Manager.password_unseen backend_discreet ?_ ?_⟩
  · apply List.Forall₂.cons (.same _)
    apply List.Forall₂.cons (.setProperties rfl rfl propertyTexts_same)
    apply List.Forall₂.cons (.same _)
    apply List.Forall₂.cons (.setProperties rfl rfl propertyTexts_same)
    apply List.Forall₂.cons (.same _)
    apply List.Forall₂.cons (.same _)
    apply List.Forall₂.cons (.same _)
    apply List.Forall₂.cons (.setParameters rfl)
    exact .cons (.same _) .nil
  · exact ⟨newManager.link, ⟨rfl, .none, rfl, rfl⟩, rfl⟩

end Server
end RunConditions
