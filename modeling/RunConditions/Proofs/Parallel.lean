import RunConditions.CommandLine.Commands
import RunConditions.Proofs.Frame

/-!
# Managers that run in parallel

Managers that are related, possibly on different backends, go abreast if they
show the same of themselves and if all that plans do to managers leads from
related ones to related ones. They run in parallel if so does all that
operations do. Plans, operations and commands then go alike as soon as lookups
do.
-/

set_option autoImplicit false

namespace RunConditions

variable {b b' : Backend} {α : Type} {R : Manager b → Manager b' → Prop}

namespace CommandLine
open Manager

theorem closeAfter_alike {body : Step b α} {body' : Step b' α} (openedHere : Bool)
    (hdisconnect : Alike R (disconnect openedHere) (disconnect openedHere))
    (hbody : Alike R body body') :
    Alike R (closeAfter openedHere body) (closeAfter openedHere body') := by
  apply hbody.attempt.bind
  intro worked
  apply hdisconnect.attempt.bind
  intro closed
  cases worked with
  | error e => exact Alike.throw e
  | ok a =>
    cases closed with
    | error e => exact Alike.throw e
    | ok _ => exact Alike.pure a

theorem connected_alike {body : Step b α} {body' : Step b' α} (hconnect : Alike R connect connect)
    (hdisconnect : ∀ openedHere, Alike R (disconnect openedHere) (disconnect openedHere))
    (hbody : Alike R body body') : Alike R (connected body) (connected body') :=
  hconnect.bind fun openedHere => closeAfter_alike openedHere (hdisconnect openedHere) hbody

theorem configuredTable_alike (name : String) (htables : ∀ m m', R m m' → m.tables = m'.tables) :
    Alike R (configuredTable name) (configuredTable name) := by
  apply Alike.get_bind
  intro m m' hr
  rw [htables m m' hr]
  split
  · exact Alike.pure _
  · exact Alike.throw _

theorem freeCollection_alike (t : Table) (collection : Option Int)
    (htables : ∀ m m', R m m' → m.tables = m'.tables)
    (hselect : ∀ sql, Alike R (select sql) (select sql)) :
    Alike R (freeCollection t collection) (freeCollection t collection) := by
  cases collection with
  | none => exact nextCollectionId_alike t.name htables hselect
  | some id =>
    apply (collectionExists_alike t.name id htables hselect).bind
    intro used
    cases used with
    | true => exact Alike.throw _
    | false => exact Alike.pure id

theorem insertCollection_alike {t t' : Table} (hname : t.name = t'.name) (hkey : t.key = t'.key)
    (collection : Option Int) (data : DataFile)
    (hfree : Alike R (freeCollection t collection) (freeCollection t' collection))
    (hupdate : ∀ sql, Alike R (update sql) (update sql)) :
    Alike R (insertCollection t collection data) (insertCollection t' collection data) := by
  apply hfree.bind
  intro id
  rw [hname, hkey]
  apply (Alike.conclude _).bind
  intro statement
  exact (hupdate statement.text).bind fun _ => Alike.pure _

theorem add_alike (s : Surroundings) (a : AddArguments)
    (htables : ∀ m m', R m m' → m.tables = m'.tables) (hconnect : Alike R connect connect)
    (hdisconnect : ∀ openedHere, Alike R (disconnect openedHere) (disconnect openedHere))
    (hrecord : ∀ record, Alike R (addRecord record) (addRecord record)) :
    Alike R (add s a) (add s a) := by
  have hconnected : ∀ record,
      Alike R (connected (addRecord record)) (connected (addRecord record)) :=
    fun record => connected_alike hconnect hdisconnect (hrecord record)
  apply (configuredTable_alike a.table htables).bind
  intro t
  dsimp only
  split
  · exact (Alike.throw _).bind fun _ => hconnected _
  · exact hconnected _

end CommandLine

namespace Manager

/-- Related managers show the same of themselves and stay related through all that
plans do to managers. -/
structure Abreast (R : Manager b → Manager b' → Prop) : Prop where
  view : ∀ m m', R m m' → m.view = m'.view
  reader : ∀ m m', R m m' → m.reader = m'.reader
  connect : Alike R connect connect
  disconnect : ∀ openedHere, Alike R (disconnect openedHere) (disconnect openedHere)
  forceDisconnect : Alike R forceDisconnect forceDisconnect
  setParameters : ∀ p, Alike R (setParameters p) (setParameters p)
  select : ∀ sql, Alike R (select sql) (select sql)
  update : ∀ sql, Alike R (update sql) (update sql)
  readingBy : ∀ m m' reader, R m m' → R (m.readingBy reader) (m'.readingBy reader)
  withoutRecords : ∀ m m', R m m' → R m.withoutRecords m'.withoutRecords

/-- They also stay related through all that operations do, new entries of the cache
apart. -/
structure Parallel (R : Manager b → Manager b' → Prop) : Prop extends Abreast R where
  types : ∀ m m', R m m' → m.types = m'.types
  shared : ∀ m m', R m m' → R { m with shared := true } { m' with shared := true }
  setUp : ∀ m m' config s, R m m' → setup m.types config = .ok s → R (m.setUp s) (m'.setUp s)
  switched : ∀ m m' detector run, R m m' → R (m.switched detector run) (m'.switched detector run)

section Plans

variable {look : (k : Kind) → String → Step b k.Data}
  {look' : (k : Kind) → String → Step b' k.Data}

namespace Abreast

theorem tables (hp : Abreast R) (m : Manager b) (m' : Manager b') (hr : R m m') :
    m.tables = m'.tables :=
  congrArg View.tables (hp.view m m' hr)

theorem conditionsTable (hp : Abreast R) (m : Manager b) (m' : Manager b') (hr : R m m') :
    m.conditionsTable = m'.conditionsTable :=
  congrArg View.conditionsTable (hp.view m m' hr)

theorem isConnected (hp : Abreast R) (m : Manager b) (m' : Manager b') (hr : R m m') :
    m.isConnected = m'.isConnected :=
  congrArg View.connected (hp.view m m' hr)

theorem hasParameters (hp : Abreast R) (m : Manager b) (m' : Manager b') (hr : R m m') :
    m.hasParameters = m'.hasParameters := by
  have hstring : m.connectionString? = m'.connectionString? :=
    congrArg View.connectionString (hp.view m m' hr)
  calc m.hasParameters = m.connectionString?.isSome := Option.isSome_map.symm
    _ = m'.connectionString?.isSome := by rw [hstring]
    _ = m'.hasParameters := Option.isSome_map

theorem addRecord_alike (hp : Abreast R) (record : Record) :
    Alike R (addRecord record) (addRecord record) :=
  Manager.addRecord_alike record hp.conditionsTable hp.tables hp.update hp.withoutRecords

theorem perform_alike (hp : Abreast R) (hlook : ∀ k name, Alike R (look k name) (look' k name))
    (q : Request) : Alike R (perform look q) (perform look' q) := by
  cases q with
  | view =>
    intro m m' hr
    exact ⟨congrArg Except.ok (hp.view m m' hr), hr⟩
  | lookup kind name => exact hlook kind name
  | openText name => exact openText_alike name hp.reader
  | select sql => exact hp.select sql
  | update sql => exact hp.update sql
  | addRecord record => exact hp.addRecord_alike record
  | connect => exact hp.connect
  | disconnect openedHere => exact hp.disconnect openedHere
  | forceDisconnect => exact hp.forceDisconnect
  | setParameters p => exact hp.setParameters p
  | setReader reader => exact setReader_alike reader fun m m' => hp.readingBy m m' reader

theorem materialize_alike (hp : Abreast R)
    (hconverters : ∀ m m', R m m' → m.converters = m'.converters)
    (hcached : ∀ m m' k name payload, R m m' →
      R (m.cached k name payload) (m'.cached k name payload))
    (hlook : ∀ k name, Alike R (look k name) (look' k name)) (k : Kind) (name : String) :
    Alike R (materialize look k name) (materialize look' k name) := by
  apply Alike.get_bind
  intro m m' hr
  rw [hconverters m m' hr]
  split
  · exact Alike.throw _
  · rename_i c _
    apply (carryOut_alike (hp.perform_alike hlook) (c.plan name)).bind
    intro payload
    split
    · exact Alike.throw _
    · apply (Alike.modify fun m m' => hcached m m' k name payload).bind
      exact fun _ => Alike.pure _

theorem lookup_alike (hp : Abreast R) (hcache : ∀ m m', R m m' → m.cache = m'.cache)
    (hconverters : ∀ m m', R m m' → m.converters = m'.converters)
    (hcached : ∀ m m' k name payload, R m m' →
      R (m.cached k name payload) (m'.cached k name payload))
    (depth : Nat) (k : Kind) (name : String) :
    Alike R (lookup depth k name) (lookup depth k name) := by
  induction depth generalizing k name with
  | zero =>
    apply Alike.get_bind
    intro m m' hr
    rw [hcache m m' hr]
    split
    · exact Alike.pure _
    · exact Alike.throw _
  | succ depth ih =>
    apply Alike.get_bind
    intro m m' hr
    rw [hcache m m' hr]
    split
    · exact Alike.pure _
    · exact hp.materialize_alike hconverters hcached ih k name

end Abreast

namespace Parallel

theorem configure_alike (hp : Parallel R) (config : Config) :
    Alike R (configure config) (configure config) :=
  Manager.configure_alike config hp.types fun m m' => hp.setUp m m' config

theorem runBy_alike (hp : Parallel R) (hlook : ∀ k name, Alike R (look k name) (look' k name))
    (op : Operation) : Alike R (op.runBy look) (op.runBy look') := by
  cases op with
  | configure config => exact hp.configure_alike config
  | configureText text => exact configureText_alike text hp.configure_alike
  | configureFile files path => exact configureFile_alike files path hp.configure_alike
  | configureResource name => exact configureResource_alike name hp.configure_alike
  | setDetector detector run =>
    exact setDetector_alike detector run hp.hasParameters hp.isConnected hp.connect
      fun m m' => hp.switched m m' detector run
  | getConditions kind name => exact hlook kind name
  | getDetector => exact hlook .detector detectorDescription
  | findRecords name => exact carryOut_alike (hp.perform_alike hlook) _
  | addRecord record => exact hp.addRecord_alike record
  | nextCollectionId table => exact nextCollectionId_alike table hp.tables hp.select
  | collectionExists table collection =>
    exact collectionExists_alike table collection hp.tables hp.select
  | connect => exact hp.connect
  | disconnect openedHere => exact hp.disconnect openedHere
  | forceDisconnect => exact hp.forceDisconnect
  | setParameters p => exact hp.setParameters p
  | setProperties files path => exact setProperties_alike files path hp.setParameters
  | setResource name => exact setResource_alike name hp.setParameters
  | select sql => exact hp.select sql
  | update sql => exact hp.update sql
  | setReader reader => exact setReader_alike reader fun m m' => hp.readingBy m m' reader
  | openText name => exact openText_alike name hp.reader
  | share => exact share_alike hp.shared

end Parallel
end Plans
end Manager

open CommandLine (Surroundings LoadArguments AddArguments PrintArguments LoadOutcome)

/-- What the callers of a manager do: its operations and the commands. -/
inductive Action where
  | call (op : Operation)
  | load (s : Surroundings) (a : LoadArguments)
  | add (s : Surroundings) (a : AddArguments)
  | print (a : PrintArguments)

namespace Action

abbrev Answer : Action → Type
  | call op => op.Answer
  | load _ _ => LoadOutcome
  | add _ _ => Int
  | print _ => Collection Record

def run : (x : Action) → Step b x.Answer
  | call op => op.run
  | load s a => CommandLine.load s a
  | add s a => CommandLine.add s a
  | print a => CommandLine.print a

end Action

theorem Manager.Parallel.action_alike (hp : Parallel R)
    (hlook : ∀ k name, Alike R (getConditions k name) (getConditions k name)) (x : Action) :
    Alike R x.run x.run := by
  have hconnected : ∀ {α : Type} {body : Step b α} {body' : Step b' α}, Alike R body body' →
      Alike R (CommandLine.connected body) (CommandLine.connected body') :=
    CommandLine.connected_alike hp.connect hp.disconnect
  cases x with
  | call op => exact hp.runBy_alike hlook op
  | load s a =>
    apply (CommandLine.configuredTable_alike a.table hp.tables).bind
    intro t
    apply (Alike.conclude _).bind
    intro data
    have hfree := CommandLine.freeCollection_alike t a.collection hp.tables hp.select
    exact hconnected (CommandLine.insertCollection_alike rfl rfl a.collection data hfree hp.update)
  | add s a => exact CommandLine.add_alike s a hp.tables hp.connect hp.disconnect hp.addRecord_alike
  | print a =>
    apply (hconnected (hp.runBy_alike hlook (.findRecords a.name))).bind
    intro found
    exact Alike.pure _

end RunConditions
