import BlankImages.Dataset.Concurrent
import BlankImages.Dataset.Description
import BlankImages.Dataset.Iteration
import BlankImages.Dataset.Naming
import BlankImages.Draws

/-!
# Sessions

Commands fill and use a slot for a builder and a slot for a collection; a command
that needs a slot and finds it empty changes nothing.
-/

namespace BlankImages

/-- A slot for a builder, a slot for a collection, and how many labels have
been drawn so far. -/
structure Session (σ τ : Type) where
  classes : Word
  builder? : Option (Builder σ τ)
  dataset? : Option (Dataset σ τ)
  drawn : Nat

namespace Session

inductive Route where
  /-- By the name that this kind of collection has for it. -/
  | direct
  /-- By the name that all kinds of collections share. -/
  | shared
  deriving DecidableEq, Repr

inductive Command (σ τ : Type) where
  /-- A new builder takes the builder slot. -/
  | start (root : Root)
  | set (setting : Setting σ τ)
  | describeBuilder
  /-- The builder is used up and its collection takes the other slot. -/
  | build
  /-- A collection is made the short way; the builder slot is left alone. -/
  | create (root : Root) (train : Bool)
  | observe
  | describe
  | assignSplit (split : Split)
  | name (label : Label)
  | access (route : Route) (index : Word)
  | accessMany (count : Nat)
  /-- As many accesses by each of several workers, who take turns. -/
  | share (workers count : Nat)
  | nameMany (count : Nat)
  /-- At most `limit` items of a visit, shuffled when there is a seed. -/
  | iterate (limit : Nat) (seed? : Option Word)

inductive Reply (σ τ : Type) where
  | done
  | noBuilder
  | noDataset
  /-- A label was to be named, and the number of classes has no table. -/
  | noTable
  | events (events : List Event)
  | described (record : Record)
  | observed (dataset : Dataset σ τ)
  | named (naming : Naming)
  | accessed (access : Access) (agrees : Bool)
  | accesses (accesses : List Access)
  | namings (accesses : List Access) (namings : List Naming)
  | iterated (size : Nat) (accesses : List Access) (remaining : Nat) (agrees : Bool)

inductive Slot where
  | builder
  | dataset
  deriving DecidableEq, Repr

variable {σ τ : Type}

/-- The answer to every command that needs a slot which is empty. -/
def refusal? (session : Session σ τ) : Slot → Option (Reply σ τ)
  | .builder => if session.builder?.isNone then some .noBuilder else none
  | .dataset => if session.dataset?.isNone then some .noDataset else none

def start (classes : Word) : Session σ τ where
  classes := classes
  builder? := none
  dataset? := none
  drawn := 0

/-! ## Commands that use the builder -/

def set (session : Session σ τ) (setting : Setting σ τ) :
    Reply σ τ × Session σ τ :=
  match session.builder? with
  | none => (.noBuilder, session)
  | some builder => (.done, { session with builder? := some (builder.set setting) })

def build (session : Session σ τ) : Reply σ τ × Session σ τ :=
  match session.builder? with
  | none => (.noBuilder, session)
  | some builder =>
      (.events builder.events,
        { session with builder? := none, dataset? := some builder.build })

/-! ## Commands that use the collection -/

/-- Use the collection in the slot: the answer, and the session with the
collection as it is afterwards and with the labels that were drawn. -/
def onDataset (session : Session σ τ)
    (use : Dataset σ τ → Reply σ τ × Dataset σ τ × Nat) :
    Reply σ τ × Session σ τ :=
  match session.dataset? with
  | none => (.noDataset, session)
  | some dataset =>
      let (reply, after, count) := use dataset
      (reply, { session with dataset? := some after, drawn := session.drawn + count })

def itemBy (route : Route) (dataset : Dataset σ τ) (index : Word)
    (drawn : Label) : Access × Dataset σ τ :=
  match route with
  | .direct => dataset.itemAt index drawn
  | .shared => Collection.get dataset index drawn

def accessOne (draws : Draws) (position : Nat) (route : Route) (index : Word)
    (dataset : Dataset σ τ) : Reply σ τ × Dataset σ τ × Nat :=
  let (access, after) := itemBy route dataset index (draws position)
  (.accessed access (dataset.labelAgrees access), after, 1)

def accessMany (draws : Draws) (position count : Nat)
    (dataset : Dataset σ τ) : Reply σ τ × Dataset σ τ × Nat :=
  let (accesses, after) := dataset.accessAll (draws.segment position count)
  (.accesses accesses, after, count)

def share (draws : Draws) (position workers count : Nat)
    (dataset : Dataset σ τ) : Reply σ τ × Dataset σ τ × Nat :=
  let labels := (List.range workers).map fun number =>
    draws.segment (position + number * count) count
  let schedule := Pool.turns workers (Pool.stepsPerAccess * count)
  let pool := (Pool.start dataset labels).run schedule
  (.accesses pool.accesses, pool.dataset, workers * count)

/-- The look-up of the labels of accesses.  A table is needed only when there is
a label to look up. -/
def namingReply (dataset : Dataset σ τ) (accesses : List Access) : Reply σ τ :=
  match dataset.labelTable? with
  | some table => .namings accesses (table.namings accesses)
  | none =>
      if accesses.all (fun access => access.sample?.isNone) then
        .namings accesses []
      else
        .noTable

def nameMany (draws : Draws) (position count : Nat)
    (dataset : Dataset σ τ) : Reply σ τ × Dataset σ τ × Nat :=
  let (accesses, after) := dataset.accessAll (draws.segment position count)
  (namingReply dataset accesses, after, count)

def order (dataset : Dataset σ τ) : Option Word → List Word
  | none => Collection.indices dataset
  | some seed => Draws.shuffled seed (Collection.indices dataset)

def iterate (draws : Draws) (position limit : Nat) (seed? : Option Word)
    (dataset : Dataset σ τ) : Reply σ τ × Dataset σ τ × Nat :=
  let visit := Iteration.start dataset (order dataset seed?)
  let count := min limit visit.remaining
  let (accesses, after) := visit.read (draws.segment position count)
  (.iterated visit.remaining accesses after.remaining
      (accesses.all dataset.labelAgrees),
    after.dataset, accesses.length)

def obey (draws : Draws) (session : Session σ τ) :
    Command σ τ → Reply σ τ × Session σ τ
  | .start root =>
      (.done, { session with builder? := some (Builder.start session.classes root) })
  | .set setting => session.set setting
  | .describeBuilder =>
      match session.builder? with
      | none => (.noBuilder, session)
      | some builder => (.described builder.record, session)
  | .build => session.build
  | .create root train =>
      let builder := Builder.plain session.classes root train
      (.events builder.events, { session with dataset? := some builder.build })
  | .observe => session.onDataset fun dataset => (.observed dataset, dataset, 0)
  | .describe => session.onDataset fun dataset => (.described dataset.record, dataset, 0)
  | .assignSplit split =>
      session.onDataset fun dataset => (.done, dataset.withSplit split, 0)
  | .name label =>
      session.onDataset fun dataset =>
        match dataset.labelTable? with
        | none => (.noTable, dataset, 0)
        | some table => (.named (table.naming label), dataset, 0)
  | .access route index =>
      session.onDataset (accessOne draws session.drawn route index)
  | .accessMany count => session.onDataset (accessMany draws session.drawn count)
  | .share workers count => session.onDataset (share draws session.drawn workers count)
  | .nameMany count => session.onDataset (nameMany draws session.drawn count)
  | .iterate limit seed? => session.onDataset (iterate draws session.drawn limit seed?)

def obeyAll (draws : Draws) (session : Session σ τ) :
    List (Command σ τ) → List (Reply σ τ) × Session σ τ
  | [] => ([], session)
  | command :: rest =>
      let (reply, after) := session.obey draws command
      let (replies, last) := after.obeyAll draws rest
      (reply :: replies, last)

end Session

end BlankImages
