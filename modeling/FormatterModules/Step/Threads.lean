import FormatterModules.Step

namespace FormatterModules.Step

inductive Slot
  | settled (readiness : Readiness)
  | claimed

inductive Phase
  | entering
  | asleep
  | attempting
  | settling (outcome : Attempt FormatFunction)
  | unwinding
  | returned (outcome : Attempt FormatFunction)

def Phase.woken : Phase → Phase
  | asleep => entering
  | phase => phase

def look : Slot → Slot × Phase
  | .claimed => (.claimed, .asleep)
  | .settled readiness =>
    match readiness.function? with
    | some f => (.settled readiness, .returned (.ok f))
    | none => (.claimed, .attempting)

/-- The calls of a step, each with a name of its own: the slot they share, and how far each has come.
A caller that calls again makes another call. -/
structure Calls (ι : Type) where
  slot : Slot
  phase : ι → Phase

namespace Calls

variable {ι : Type}

def start : Calls ι := ⟨.settled .pending, fun _ => .entering⟩

variable [DecidableEq ι]

def enter (calls : Calls ι) (i : ι) (phase : Phase) : ι → Phase :=
  fun j => if j = i then phase else calls.phase j

def turn (calls : Calls ι) (i : ι) (phase : Phase) : Calls ι := ⟨calls.slot, calls.enter i phase⟩

def look (calls : Calls ι) (i : ι) : Calls ι :=
  ⟨(Step.look calls.slot).1, calls.enter i (Step.look calls.slot).2⟩

def settle (calls : Calls ι) (i : ι) : Attempt FormatFunction → Calls ι
  | .panicked => ⟨.settled (.ofAttempt .panicked), calls.enter i .unwinding⟩
  | outcome =>
    ⟨.settled (.ofAttempt outcome), fun j => (calls.enter i (.returned outcome) j).woken⟩

def rouse (calls : Calls ι) (i : ι) : Calls ι :=
  ⟨calls.slot, fun j => (calls.enter i (.returned .panicked) j).woken⟩

/-- One move of one call. -/
inductive Move : Calls ι → Calls ι → Prop
  | look (calls : Calls ι) (i : ι) (h : calls.phase i = .entering) : Move calls (calls.look i)
  | wake (calls : Calls ι) (i : ι) (h : calls.phase i = .asleep) :
      Move calls (calls.turn i .entering)
  | finish (calls : Calls ι) (i : ι) (outcome : Attempt FormatFunction)
      (h : calls.phase i = .attempting) :
      Move calls (calls.turn i (.settling outcome))
  | settle (calls : Calls ι) (i : ι) (outcome : Attempt FormatFunction)
      (h : calls.phase i = .settling outcome) :
      Move calls (calls.settle i outcome)
  | rouse (calls : Calls ι) (i : ι) (h : calls.phase i = .unwinding) : Move calls (calls.rouse i)

/-- What the calls can come to, whatever their moves. -/
inductive Reachable : Calls ι → Prop
  | start : Reachable start
  | move (calls next : Calls ι) (h : Reachable calls) (m : Move calls next) : Reachable next

end Calls

end FormatterModules.Step
