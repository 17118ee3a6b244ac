import RunConditions.Proofs.CarryOut

/-!
# Runs of the manager

All that callers can do with a manager is a list of operations, each with the
type of its answer. Conditions are looked up in a given way, which is that of
the manager unless another one is named. A run goes through operations in
order, whether they succeed or fail, and the database side may change by itself
between two of them.
-/

set_option autoImplicit false

namespace RunConditions

inductive Operation where
  | configure (config : Config)
  | configureText (text : String)
  | configureFile (files : Files) (path : String)
  | configureResource (name : String)
  | setDetector (detector : String) (run : Int)
  | getConditions (kind : Kind) (name : String)
  | getDetector
  | findRecords (name : String)
  | addRecord (record : Record)
  | nextCollectionId (table : String)
  | collectionExists (table : String) (collection : Int)
  | connect
  | disconnect (openedHere : Bool)
  | forceDisconnect
  | setParameters (parameters : Parameters)
  | setProperties (files : Files) (path : String)
  | setResource (name : String)
  | select (sql : String)
  | update (sql : String)
  | setReader (reader : Reader)
  | openText (name : String)
  | share

namespace Operation

abbrev Answer : Operation → Type
  | getConditions kind _ => kind.Data
  | getDetector => Detector
  | findRecords _ => Collection Record
  | addRecord _ => Int
  | nextCollectionId _ => Int
  | collectionExists _ _ => Bool
  | connect => Bool
  | disconnect _ => Bool
  | forceDisconnect => Bool
  | select _ => ResultSet
  | update _ => List Int
  | openText _ => String
  | _ => Unit

variable {b : Backend}

/-- The step of an operation, with a way to look conditions up. -/
def runBy (look : (k : Kind) → String → Step b k.Data) : (op : Operation) → Step b op.Answer
  | configure config => Manager.configure config
  | configureText text => Manager.configureText text
  | configureFile files path => Manager.configureFile files path
  | configureResource name => Manager.configureResource name
  | setDetector detector run => Manager.setDetector detector run
  | getConditions kind name => look kind name
  | getDetector => look .detector Manager.detectorDescription
  | findRecords name => Manager.carryOut look (Plan.findRecords name)
  | addRecord record => Manager.addRecord record
  | nextCollectionId table => Manager.nextCollectionId table
  | collectionExists table collection => Manager.collectionExists table collection
  | connect => Manager.connect
  | disconnect openedHere => Manager.disconnect openedHere
  | forceDisconnect => Manager.forceDisconnect
  | setParameters p => Manager.setParameters p
  | setProperties files path => Manager.setProperties files path
  | setResource name => Manager.setResource name
  | select sql => Manager.select sql
  | update sql => Manager.update sql
  | setReader reader => Manager.setReader reader
  | openText name => Manager.openText name
  | share => Manager.share

def run (op : Operation) : Step b op.Answer :=
  op.runBy Manager.getConditions

end Operation

abbrev Outcome : Type :=
  (op : Operation) × Except Error op.Answer

namespace Manager

variable {b b' : Backend}

def outcomes (look : (k : Kind) → String → Step b k.Data) :
    List Operation → Manager b → List Outcome
  | [], _ => []
  | op :: ops, m =>
    ⟨op, outcome (op.runBy look) m⟩ :: outcomes look ops (final (op.runBy look) m)

def afterwards (look : (k : Kind) → String → Step b k.Data) :
    List Operation → Manager b → Manager b
  | [], m => m
  | op :: ops, m => afterwards look ops (final (op.runBy look) m)

theorem outcomes_alike {look : (k : Kind) → String → Step b k.Data}
    {look' : (k : Kind) → String → Step b' k.Data} {R : Manager b → Manager b' → Prop}
    (ops : List Operation) (h : ∀ op ∈ ops, Alike R (op.runBy look) (op.runBy look'))
    (m : Manager b) (m' : Manager b') (hm : R m m') :
    outcomes look ops m = outcomes look' ops m' := by
  induction ops generalizing m m' with
  | nil => rfl
  | cons op ops ih =>
    obtain ⟨ho, hr⟩ := h op (by simp) m m' hm
    rw [outcomes, outcomes, ho]
    congr 1
    exact ih (fun o hmem => h o (by simp [hmem])) _ _ hr

end Manager
end RunConditions
