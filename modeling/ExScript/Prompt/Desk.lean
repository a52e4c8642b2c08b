import ExScript.Fault
import ExScript.Session

/-!
The desk at which requests for a line are posted by some threads and answered by others. Every
change of the desk is one atomic step, so that steps of different threads can come in any order:
posting, handing out the next request, claiming the reply slot of a request, filling it, taking the
reply, and for a request whose time is up withdrawing it and looking at its slot once more.

A line can also be asked for at a terminal, where an interrupt and the end of input refuse it.
-/

namespace ExScript

structure Posted where
  number : Nat
  request : PromptRequest
  deriving DecidableEq, Repr

inductive Waiting where
  | waiting
  | timedOut
  | withdrawn
  | returned (answer : Option String)
  deriving DecidableEq, Repr

/-- A posted request with its reply slot, which holds one answer at most. -/
structure Asking where
  posted : Posted
  state : Waiting := .waiting
  slot : Option (Option String) := none
  deriving DecidableEq, Repr

/-- An answer whose request is claimed and whose slot is still to be filled. -/
structure Delivery where
  number : Nat
  answer : Option String
  deriving DecidableEq, Repr

structure Desk where
  nextNumber : Nat := 1
  unread : List Posted := []
  pending : List Nat := []
  asked : List Asking := []
  claimed : List Delivery := []
  deriving DecidableEq, Repr, Inhabited

namespace Desk

def find? (desk : Desk) (number : Nat) : Option Asking :=
  desk.asked.find? fun asking => asking.posted.number = number

def update (desk : Desk) (number : Nat) (change : Asking → Asking) : Desk :=
  { desk with
    asked := desk.asked.map fun asking =>
      if asking.posted.number = number then change asking else asking }

/-- Removes the first request that looks like the one given, whatever its number. -/
def removeLike (request : PromptRequest) : List Posted → List Posted
  | [] => []
  | posted :: rest =>
      if posted.request = request then rest else posted :: removeLike request rest

def withdrawn (number : Nat) (unread : List Posted) : List Posted :=
  match unread.find? fun posted => posted.number = number with
  | none => unread
  | some posted => removeLike posted.request unread

def forget (desk : Desk) (number : Nat) : Desk :=
  { desk with
    unread := withdrawn number desk.unread
    pending := desk.pending.filter (· ≠ number) }

def post (desk : Desk) (request : PromptRequest) : Nat × Desk :=
  let posted : Posted := ⟨desk.nextNumber, request⟩
  (desk.nextNumber,
    { desk with
      nextNumber := desk.nextNumber + 1
      unread := desk.unread ++ [posted]
      pending := desk.pending ++ [posted.number]
      asked := desk.asked ++ [{ posted }] })

def next (desk : Desk) : Option Posted × Desk :=
  match desk.unread with
  | [] => (none, desk)
  | posted :: rest => (some posted, { desk with unread := rest })

/-- The request that an answer is meant for: the one named, or the oldest that waits. -/
def target? (desk : Desk) (named : Option Int) : Option Int :=
  match named with
  | some number => some number
  | none => desk.pending.min?.map fun (number : Nat) => (number : Int)

/-- Claims the reply slot that an answer is meant for. There is none if its request does not wait;
an unread one of that number is taken out even then. No number is below zero. -/
def claim (desk : Desk) (named : Option Int) (answer : Option String) : Option Nat × Desk :=
  match desk.target? named with
  | none | some (.negSucc _) => (none, desk)
  | some (.ofNat number) =>
      let forgotten := desk.forget number
      if number ∈ desk.pending then
        (some number, { forgotten with claimed := forgotten.claimed ++ [⟨number, answer⟩] })
      else (none, forgotten)

/-- Fills the slot of a claimed request; there is no answer for a slot that is full already. -/
def fill (desk : Desk) (number : Nat) : Option Desk :=
  match desk.claimed.find? (·.number = number), desk.find? number with
  | some delivery, some asking =>
      if asking.slot.isSome then none
      else
        let filled := desk.update number fun asking => { asking with slot := some delivery.answer }
        some { filled with claimed := filled.claimed.filter (·.number ≠ number) }
  | _, _ => none

def take (desk : Desk) (number : Nat) : Option Desk :=
  match desk.find? number with
  | some ⟨_, .waiting, some answer⟩ =>
      some (desk.update number fun asking =>
        { asking with state := .returned answer, slot := none })
  | _ => none

def expire (desk : Desk) (number : Nat) : Option Desk :=
  match desk.find? number with
  | some ⟨_, .waiting, _⟩ =>
      some (desk.update number fun asking => { asking with state := .timedOut })
  | _ => none

def withdraw (desk : Desk) (number : Nat) : Option Desk :=
  match desk.find? number with
  | some ⟨_, .timedOut, _⟩ =>
      some ((desk.forget number).update number fun asking => { asking with state := .withdrawn })
  | _ => none

/-- After withdrawing, a thread looks at its slot once more and returns in any case. -/
def leave (desk : Desk) (number : Nat) : Option Desk :=
  match desk.find? number with
  | some ⟨_, .withdrawn, slot⟩ =>
      some (desk.update number fun asking =>
        { asking with state := .returned (slot.getD none), slot := none })
  | _ => none

inductive Event where
  | posted (posted : Posted)
  | handedOut (posted : Posted)
  | idled
  | claimed (delivery : Delivery)
  | refused (named : Option Int)
  /-- The slot is filled; whoever answered is told that the request still waited. -/
  | accepted (number : Nat)
  | took (number : Nat)
  | expired (number : Nat)
  | withdrew (number : Nat)
  | left (number : Nat)
  deriving DecidableEq, Repr

inductive Step : Desk → Event → Desk → Prop where
  | post (desk : Desk) (request : PromptRequest) :
      Step desk (.posted ⟨desk.nextNumber, request⟩) (desk.post request).2
  | next {desk after : Desk} {posted : Posted} (handed : desk.next = (some posted, after)) :
      Step desk (.handedOut posted) after
  | idle {desk after : Desk} (nothing : desk.next = (none, after)) : Step desk .idled after
  | claim {desk after : Desk} {number : Nat} (named : Option Int) (answer : Option String)
      (claimed : desk.claim named answer = (some number, after)) :
      Step desk (.claimed ⟨number, answer⟩) after
  | refuse {desk after : Desk} (named : Option Int) (answer : Option String)
      (refused : desk.claim named answer = (none, after)) : Step desk (.refused named) after
  | fill {desk after : Desk} {number : Nat} (filled : desk.fill number = some after) :
      Step desk (.accepted number) after
  | take {desk after : Desk} {number : Nat} (taken : desk.take number = some after) :
      Step desk (.took number) after
  | expire {desk after : Desk} {number : Nat} (expired : desk.expire number = some after) :
      Step desk (.expired number) after
  | withdraw {desk after : Desk} {number : Nat}
      (withdrawn : desk.withdraw number = some after) : Step desk (.withdrew number) after
  | leave {desk after : Desk} {number : Nat} (left : desk.leave number = some after) :
      Step desk (.left number) after

inductive Run : List Event → Desk → Prop where
  | start : Run [] {}
  | step {events : List Event} {desk after : Desk} {event : Event} (run : Run events desk)
      (step : Step desk event after) : Run (events ++ [event]) after

def answer (desk : Desk) (named : Option Int) (answer : Option String) : Bool × Desk :=
  match desk.claim named answer with
  | (none, left) => (false, left)
  | (some number, claimed) => (true, (claimed.fill number).getD claimed)

def lateAnswerRow (desk : Desk) (named : Option Int) : String :=
  "prompt.late_answer request=" ++
    (match desk.target? named with
      | none => "None"
      | some number => toString number)

def timeoutRow (number : Nat) (seconds : String) : String :=
  "prompt.timeout request=" ++ toString number ++ " timeout=" ++ seconds ++ "s"

def askInVain (desk : Desk) (request : PromptRequest) : Nat × Desk :=
  let (number, posted) := desk.post request
  let left := (posted.expire number).bind fun expired =>
    (expired.withdraw number).bind fun withdrawn => withdrawn.leave number
  (number, left.getD posted)

def returned? (desk : Desk) (number : Nat) : Option (Option String) :=
  match desk.find? number with
  | some ⟨_, .returned answer, _⟩ => some answer
  | _ => none

end Desk

namespace Terminal

inductive Reply where
  | line (text : String)
  | interrupt
  | endOfInput
  | failure (fault : Fault)
  deriving DecidableEq, Repr

def Reply.answer : Reply → Except Fault (Option String)
  | .line text => .ok (some text)
  | .interrupt | .endOfInput => .ok none
  | .failure fault => .error fault

def offered (completions : List String) : Option (List String) :=
  if completions.isEmpty then none else some completions

end Terminal

end ExScript
