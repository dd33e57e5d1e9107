import FormatterModules.Loader.Cache

namespace FormatterModules.LoaderCache

structure Request where
  artifacts : ArtifactSet
  shared : SharedNames

def Request.key (r : Request) : LoaderKey := .of r.artifacts r.shared

inductive Phase
  | entering
  | waiting (slot : Nat)
  | missing (slot : Nat)
  | building (slot : Nat) (id : LoaderId)
  | storing (slot : Nat) (loader : ModuleLoader)
  | returned (result : Except Failure ModuleLoader)

namespace Phase

def slot? : Phase → Option Nat
  | waiting slot => some slot
  | missing slot => some slot
  | building slot _ => some slot
  | storing slot _ => some slot
  | _ => none

def held? : Phase → Option Nat
  | waiting _ => none
  | phase => phase.slot?

end Phase

/-- The calls of a cache, each with a name of its own: what each asks for, how far it has come, and
what they share. -/
structure Calls (ι : Type) where
  engines : EngineTable
  request : ι → Request
  slotOf? : LoaderKey → Option Nat
  slotCount : Nat
  loader? : Nat → Option ModuleLoader
  nextNumber : Nat
  size : Nat
  phase : ι → Phase

namespace Calls

variable {ι : Type}

def start (engines : EngineTable) (request : ι → Request) : Calls ι where
  engines
  request
  slotOf? _ := none
  slotCount := 0
  loader? _ := none
  nextNumber := 1
  size := 0
  phase _ := .entering

def key (calls : Calls ι) (i : ι) : LoaderKey := (calls.request i).key

def IsLocked (calls : Calls ι) (slot : Nat) : Prop := ∃ i, (calls.phase i).held? = some slot

def made (calls : Calls ι) (i : ι) (id : LoaderId) : Except Failure ModuleLoader :=
  ModuleLoader.ofArtifacts id calls.engines (calls.request i).artifacts (calls.request i).shared

def addSlot (calls : Calls ι) (key : LoaderKey) : Calls ι :=
  { calls with
    slotOf? := fun k => if k = key then some calls.slotCount else calls.slotOf? k
    slotCount := calls.slotCount + 1
    loader? := fun s => if s = calls.slotCount then none else calls.loader? s }

def takeNumber (calls : Calls ι) : Calls ι := { calls with nextNumber := calls.nextNumber + 1 }

def count (calls : Calls ι) : Calls ι := { calls with size := calls.size + 1 }

def fill (calls : Calls ι) (slot : Nat) (l : ModuleLoader) : Calls ι :=
  { calls with loader? := fun s => if s = slot then some l else calls.loader? s }

variable [DecidableEq ι]

def enter (calls : Calls ι) (i : ι) (phase : Phase) : Calls ι :=
  { calls with phase := fun j => if j = i then phase else calls.phase j }

/-- One move of one call. -/
inductive Move : Calls ι → Calls ι → Prop
  | find (calls : Calls ι) (i : ι) (slot : Nat) (h : calls.phase i = .entering)
      (known : calls.slotOf? (calls.key i) = some slot) :
      Move calls (calls.enter i (.waiting slot))
  | add (calls : Calls ι) (i : ι) (h : calls.phase i = .entering)
      (unknown : calls.slotOf? (calls.key i) = none) :
      Move calls ((calls.addSlot (calls.key i)).enter i (.waiting calls.slotCount))
  | hit (calls : Calls ι) (i : ι) (slot : Nat) (l : ModuleLoader)
      (h : calls.phase i = .waiting slot) (free : ¬ calls.IsLocked slot)
      (filled : calls.loader? slot = some l) :
      Move calls (calls.enter i (.returned (.ok l)))
  | miss (calls : Calls ι) (i : ι) (slot : Nat) (h : calls.phase i = .waiting slot)
      (free : ¬ calls.IsLocked slot) (empty : calls.loader? slot = none) :
      Move calls (calls.enter i (.missing slot))
  | number (calls : Calls ι) (i : ι) (slot : Nat) (h : calls.phase i = .missing slot) :
      Move calls (calls.takeNumber.enter i (.building slot ⟨calls.nextNumber⟩))
  | fail (calls : Calls ι) (i : ι) (slot : Nat) (id : LoaderId) (e : Failure)
      (h : calls.phase i = .building slot id) (failed : calls.made i id = .error e) :
      Move calls (calls.enter i (.returned (.error e)))
  | build (calls : Calls ι) (i : ι) (slot : Nat) (id : LoaderId) (l : ModuleLoader)
      (h : calls.phase i = .building slot id) (built : calls.made i id = .ok l) :
      Move calls (calls.count.enter i (.storing slot l))
  | store (calls : Calls ι) (i : ι) (slot : Nat) (l : ModuleLoader)
      (h : calls.phase i = .storing slot l) :
      Move calls ((calls.fill slot l).enter i (.returned (.ok l)))

/-- What the calls can come to from a cache without loaders, whatever their moves. -/
inductive Reachable : Calls ι → Prop
  | start (engines : EngineTable) (request : ι → Request) : Reachable (start engines request)
  | move (calls next : Calls ι) (h : Reachable calls) (m : Move calls next) : Reachable next

end Calls

end FormatterModules.LoaderCache
