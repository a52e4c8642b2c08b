import Mathlib.Data.List.ProdSigma
import ExScript.Proofs.Isolation

/-!
Searching the runtime path. The candidates are looked at one after the other, those of one directory
before those of the next, and each in the state that the scripts sourced before it have left. Only a
candidate that the system refuses to look at, and a directory of an unknown account, break the
search off.
-/

namespace ExScript

namespace Settings

end Settings

namespace Engine

variable {N : Type}

structure Visit (N : Type) where
  directory : Path
  name : String
  before : State N
  behind : State N

def candidateAt (place : Path × String) : Path :=
  place.1.join (Path.ofString place.2)

namespace Visit

def place (visit : Visit N) : Path × String :=
  (visit.directory, visit.name)

def candidate (visit : Visit N) : Path :=
  candidateAt visit.place

def found (visit : Visit N) : Bool :=
  visit.before.files.isFile visit.candidate && visit.before.files.isReadable visit.candidate

/-- A candidate that is a file and may be read is sourced, to whatever end; any other one is passed
by. -/
inductive Made (dispatch : Dispatch N) (visit : Visit N) : Prop where
  | sourced (found : visit.found = true)
      (readable : unreadable? visit.before.files visit.candidate = none) (completed : Bool)
      (ran : (source dispatch visit.candidate visit.candidate.text false).run visit.before =
        .ok completed visit.behind)
  | passed (missed : visit.found = false)
      (shown : visit.before.files.refusal? visit.candidate = none)
      (same : visit.behind = visit.before)

end Visit

inductive Search (dispatch : Dispatch N) : State N → List (Visit N) → State N → Prop where
  | nothing {state} : Search dispatch state [] state
  | visit {visit : Visit N} {rest last} (made : visit.Made dispatch)
      (behind : Search dispatch visit.behind rest last) :
      Search dispatch visit.before (visit :: rest) last

/-- The search has come to a place, which is not the first one of a file if one is enough. -/
structure ComesTo (dispatch : Dispatch N) (all : Bool) (state : State N)
    (places : List (Path × String)) (visits : List (Visit N)) (place : Path × String)
    (last : State N) : Prop where
  search : Search dispatch state visits last
  looked : visits.map Visit.place ++ [place] <+: places
  missed : all = false → ∀ visit ∈ visits, visit.found = false

inductive SearchEnds (deep : Prop) (dispatch : Dispatch N) (all : Bool) (state : State N)
    (places : List (Path × String)) : Ended N Bool → Prop where
  | everywhere {visits last} (search : Search dispatch state visits last)
      (looked : visits.map Visit.place = places)
      (missed : all = false → ∀ visit ∈ visits, visit.found = false) :
      SearchEnds deep dispatch all state places (.ok (visits.any Visit.found) last)
  | first {visits} {visit : Visit N} (only : all = false)
      (here : ComesTo dispatch all state places visits visit.place visit.before)
      (made : visit.Made dispatch) (found : visit.found = true) :
      SearchEnds deep dispatch all state places (.ok true visit.behind)
  | refused {visits place fault last} (here : ComesTo dispatch all state places visits place last)
      (refused : last.files.refusal? (candidateAt place) = some fault) :
      SearchEnds deep dispatch all state places (.error (.fault fault) last)
  | exhausted {visits place last stopped}
      (here : ComesTo dispatch all state places visits place last)
      (ran : (source dispatch (candidateAt place) (candidateAt place).text false).run last =
        .error .exhausted stopped) (tooDeep : deep) :
      SearchEnds deep dispatch all state places (.error .exhausted stopped)

variable {deep : Prop} {dispatch : Dispatch N} {all : Bool}

def foundBefore (before : Bool) : Ended N Bool → Ended N Bool
  | .ok found last => .ok (before || found) last
  | .error stop last => .error stop last

theorem ComesTo.here {state : State N} {place : Path × String} {rest : List (Path × String)} :
    ComesTo dispatch all state (place :: rest) [] place state where
  search := .nothing
  looked := List.prefix_append [place] rest
  missed _ := List.forall_mem_nil _

theorem missed_cons {visit : Visit N} {visits : List (Visit N)}
    (one : all = false → visit.found = false)
    (others : all = false → ∀ other ∈ visits, other.found = false) (only : all = false) :
    ∀ other ∈ visit :: visits, other.found = false :=
  List.forall_mem_cons.mpr ⟨one only, others only⟩

theorem ComesTo.behind {visit : Visit N} {places : List (Path × String)} {visits : List (Visit N)}
    {place : Path × String} {last : State N} (made : visit.Made dispatch)
    (missed : all = false → visit.found = false)
    (comes : ComesTo dispatch all visit.behind places visits place last) :
    ComesTo dispatch all visit.before (visit.place :: places) (visit :: visits) place last where
  search := .visit made comes.search
  looked := (List.prefix_cons_inj _).mpr comes.looked
  missed := missed_cons missed comes.missed

theorem SearchEnds.behind {visit : Visit N} {places : List (Path × String)} {result : Ended N Bool}
    (made : visit.Made dispatch) (missed : all = false → visit.found = false)
    (ends : SearchEnds deep dispatch all visit.behind places result) :
    SearchEnds deep dispatch all visit.before (visit.place :: places)
      (foundBefore visit.found result) := by
  cases ends with
  | everywhere search looked others =>
      exact .everywhere (.visit made search) (by rw [List.map_cons, looked])
        (missed_cons missed others)
  | first only here last found =>
      rw [foundBefore, Bool.or_true]
      exact .first only (here.behind made missed) last found
  | refused here refused => exact .refused (here.behind made missed) refused
  | exhausted here ran tooDeep => exact .exhausted (here.behind made missed) ran tooDeep

namespace Orderly

end Orderly

end Engine

end ExScript
