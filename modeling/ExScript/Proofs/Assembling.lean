import ExScript.Proofs.Pulling

/-!
The directives that are assembled from lines at hand, and the fault that breaks them off. They do
not depend on what happens between one pull and the next, and lines that stand further down give
the same directives with greater numbers.
-/

namespace ExScript

variable {C : Type}

def Directive.moved (lines : Nat) (directive : Directive C) : Directive C :=
  { directive with line := directive.line + lines }

def OpenHeredoc.moved (lines : Nat) (heredoc : OpenHeredoc C) : OpenHeredoc C :=
  { heredoc with header := heredoc.header.moved lines }

def LineRole.moved (lines : Nat) : LineRole C → LineRole C
  | .ignored => .ignored
  | .unknown => .unknown
  | .whole directive => .whole (directive.moved lines)
  | .opens heredoc => .opens (heredoc.moved lines)
  | .body heredoc => .body (heredoc.moved lines)
  | .closes directive => .closes (directive.moved lines)

namespace Assembly

theorem headerRole_moved (registry : Registry C) (number lines : Nat) (line : String) :
    headerRole registry (number + lines) line =
      (headerRole registry number line).map (LineRole.moved lines) := by
  cases ignored : CommandLine.isIgnored line with
  | true => simp [headerRole, ignored, Except.map, LineRole.moved]
  | false =>
      cases parses : CommandLine.parse line with
      | error digits => simp [headerRole, ignored, parses, Except.map]
      | ok read =>
          cases read with
          | none => simp [headerRole, ignored, parses, Except.map, LineRole.moved]
          | some parsed =>
              cases resolves : registry.resolve parsed.name with
              | none => simp [headerRole, ignored, parses, resolves, Except.map, LineRole.moved]
              | some command =>
                  rw [headerRole_calledFor ignored parses resolves,
                    headerRole_calledFor ignored parses resolves]
                  split <;> rfl

theorem roleOf_moved (registry : Registry C) (pending : Option (OpenHeredoc C))
    (number lines : Nat) (text : String) :
    roleOf registry (pending.map (OpenHeredoc.moved lines)) (number + lines) text =
      (roleOf registry pending number text).map (LineRole.moved lines) := by
  cases pending with
  | none => exact headerRole_moved registry number lines (dropCarriageReturn text)
  | some heredoc =>
      by_cases last : dropCarriageReturn text = heredoc.terminator
      · simp [roleOf, bodyRole, OpenHeredoc.moved, last, Except.map, LineRole.moved]
      · simp [roleOf, bodyRole, OpenHeredoc.moved, last, Except.map, LineRole.moved,
          OpenHeredoc.addLine, Directive.moved]

end Assembly

namespace Stream

def moved (lines : Nat) (stream : Stream C) : Stream C :=
  { stream with
    assembled := stream.assembled.map (Directive.moved lines)
    number := stream.number + lines
    pending := stream.pending.map (OpenHeredoc.moved lines) }

theorem moved_zero (stream : Stream C) : stream.moved 0 = stream := by
  have directive : (Directive.moved 0 : Directive C → Directive C) = id := rfl
  have heredoc : (OpenHeredoc.moved 0 : OpenHeredoc C → OpenHeredoc C) = id := rfl
  simp [moved, directive, heredoc]

structure Pulled.Moved (lines : Nat) (pulled other : Pulled C) : Prop where
  result : other.result = pulled.result.map (Option.map (Directive.moved lines))
  stream : other.stream = pulled.stream.moved lines

variable {registry : Registry C} {stream : Stream C}

theorem takeLine_moved (registry : Registry C) (stream : Stream C) (lines : Nat) (text : String)
    (session following : Session) :
    (stream.takeLine registry text session).Moved lines
      ((stream.moved lines).takeLine registry text following) := by
  have roles := Assembly.roleOf_moved registry stream.pending stream.number lines text
  have next : stream.number + lines + 1 = stream.number + 1 + lines := by omega
  unfold takeLine
  dsimp only [moved]
  rw [roles, next]
  cases Assembly.roleOf registry stream.pending stream.number text with
  | error fault => exact ⟨rfl, rfl⟩
  | ok role =>
      cases role with
      | ignored | unknown | whole | opens | body | closes => exact ⟨rfl, rfl⟩

theorem takeLine_prompting (registry : Registry C) (stream : Stream C) (text : String)
    (session : Session) :
    (stream.takeLine registry text session).stream.prompting = stream.prompting := by
  unfold takeLine
  dsimp only
  split <;> rfl

theorem finish_moved (stream : Stream C) (lines : Nat) (session following : Session) :
    (stream.finish session).Moved lines ((stream.moved lines).finish following) := by
  unfold finish
  dsimp only [moved]
  cases stream.pending with
  | none => exact ⟨rfl, rfl⟩
  | some heredoc => exact ⟨rfl, rfl⟩

theorem pullLines_moved (given : stream.prompting = none) (lines : Nat) (atHand : List String)
    (session following : Session) :
    (pullLines registry atHand stream session).Moved lines
      (pullLines registry atHand (stream.moved lines) following) := by
  induction atHand generalizing stream session following with
  | nil =>
      unfold pullLines
      have also : (stream.moved lines).prompting = none := given
      rw [given, also]
      exact finish_moved stream lines session following
  | cons text rest ih =>
      have read :=
        takeLine_moved registry { stream with atHand := rest } lines text session following
      have prompting :=
        (takeLine_prompting registry { stream with atHand := rest } text session).trans given
      have behind : { stream.moved lines with atHand := rest } =
          moved lines { stream with atHand := rest } := rfl
      unfold pullLines
      rw [behind]
      generalize takeLine registry { stream with atHand := rest } text session = pulled
        at read prompting
      generalize takeLine registry (moved lines { stream with atHand := rest }) text following =
        other at read
      obtain ⟨result, next, after⟩ := pulled
      obtain ⟨_, _, afterwards⟩ := other
      obtain ⟨rfl, rfl⟩ := read
      rcases result with fault | _ | directive
      · exact ⟨rfl, rfl⟩
      · exact ih prompting after afterwards
      · exact ⟨rfl, rfl⟩

theorem pull_moved (registry : Registry C) (given : stream.prompting = none) (lines : Nat)
    (session following : Session) :
    (stream.pull registry session).Moved lines
      ((stream.moved lines).pull registry following) := by
  unfold pull
  have past : ((stream.moved lines).closed || (stream.moved lines).ended) =
      (stream.closed || stream.ended) := rfl
  rw [past]
  split
  · exact ⟨rfl, rfl⟩
  · cases assembled : stream.assembled with
    | nil =>
        have also : (stream.moved lines).assembled = [] := by simp [moved, assembled]
        rw [also]
        exact pullLines_moved given lines stream.atHand session following
    | cons directive rest =>
        have also : (stream.moved lines).assembled =
            directive.moved lines :: rest.map (Directive.moved lines) := by simp [moved, assembled]
        rw [also]
        exact ⟨rfl, rfl⟩

abbrev Lines (stream : Stream C) : Prop :=
  stream.ReadsText fun _ => True

theorem Lines.gave (lines : stream.Lines) (live : stream.ended = false) (registry : Registry C)
    (session : Session) :
    Gave (fun _ => True) stream (stream.pull registry session).result
      (stream.pull registry session).stream :=
  pull_gave (fun _ _ _ => trivial) lines live session

theorem Lines.pull (lines : stream.Lines) (registry : Registry C) (session : Session) :
    (stream.pull registry session).stream.Lines := by
  cases ended : stream.ended with
  | true =>
      rw [pull_ended ended]
      exact lines
  | false =>
      have gave := lines.gave ended registry session
      generalize (stream.pull registry session).result = result at gave
      cases gave with
      | directive reads | nothing reads | failure reads => exact reads

/-- What pulls give one after the other, whatever becomes of the session in between: directives, and
the fault of the last pull if it fails. -/
inductive Assembles (registry : Registry C) :
    Stream C → List (Directive C) → Option Fault → Prop where
  | ended {stream session} (pulled : (stream.pull registry session).result = .ok none) :
      Assembles registry stream [] none
  | broken {stream session fault}
      (pulled : (stream.pull registry session).result = .error fault) :
      Assembles registry stream [] (some fault)
  | more {stream session directive rest fault}
      (pulled : (stream.pull registry session).result = .ok (some directive))
      (behind : Assembles registry (stream.pull registry session).stream rest fault) :
      Assembles registry stream (directive :: rest) fault

theorem exists_assembles (registry : Registry C) (lines : stream.Lines) :
    ∃ directives fault, stream.Assembles registry directives fault := by
  induction size : stream.remaining using Nat.strongRecOn generalizing stream with
  | ind size ih =>
      cases ended : stream.ended with
      | true =>
          have nothing : (stream.pull registry {}).result = .ok none := by rw [pull_ended ended]
          exact ⟨[], none, .ended nothing⟩
      | false =>
          have gave := lines.gave ended registry {}
          generalize pulled : (stream.pull registry {}).result = result at gave
          cases gave with
          | nothing => exact ⟨[], none, .ended pulled⟩
          | failure => exact ⟨[], some _, .broken pulled⟩
          | @directive directive _ reads _ _ fewer =>
              obtain ⟨rest, fault, behind⟩ := ih _ (size ▸ fewer) reads rfl
              exact ⟨directive :: rest, fault, .more pulled behind⟩

theorem Assembles.moved {directives : List (Directive C)} {fault : Option Fault}
    (assembles : stream.Assembles registry directives fault) (reads : stream.Lines) (lines : Nat) :
    (stream.moved lines).Assembles registry (directives.map (Directive.moved lines)) fault := by
  induction assembles with
  | @ended stream session pulled =>
      have also := pull_moved registry reads.prompting lines session session
      exact .ended (also.result.trans (by rw [pulled]; rfl))
  | @broken stream session fault pulled =>
      have also := pull_moved registry reads.prompting lines session session
      exact .broken (also.result.trans (by rw [pulled]; rfl))
  | @more stream session directive rest fault pulled behind ih =>
      have also := pull_moved registry reads.prompting lines session session
      refine .more (also.result.trans (by rw [pulled]; rfl)) ?_
      rw [also.stream]
      exact ih (reads.pull registry session)

theorem pull_alike (reads : stream.Lines) (registry : Registry C) (session following : Session) :
    (stream.pull registry following).result = (stream.pull registry session).result ∧
      (stream.pull registry following).stream = (stream.pull registry session).stream := by
  -- A pull from no further down can have another session.
  have same := pull_moved registry reads.prompting 0 session following
  have unmoved : (Directive.moved 0 : Directive C → Directive C) = id := rfl
  rw [moved_zero] at same
  refine ⟨same.result.trans ?_, same.stream.trans (moved_zero _)⟩
  rw [unmoved, Option.map_id]
  cases (stream.pull registry session).result <;> rfl

theorem Assembles.unique {directives others : List (Directive C)} {fault last : Option Fault}
    (assembles : stream.Assembles registry directives fault) (reads : stream.Lines)
    (also : stream.Assembles registry others last) : others = directives ∧ last = fault := by
  induction assembles generalizing others with
  | @ended stream session pulled =>
      cases also with
      | ended => exact ⟨rfl, rfl⟩
      | @broken _ following _ again | @more _ following _ _ _ again =>
          rw [(pull_alike reads registry session following).1, pulled] at again
          cases again
  | @broken stream session fault pulled =>
      cases also with
      | @broken _ following _ again =>
          rw [(pull_alike reads registry session following).1, pulled] at again
          cases again
          exact ⟨rfl, rfl⟩
      | @ended _ following again | @more _ following _ _ _ again =>
          rw [(pull_alike reads registry session following).1, pulled] at again
          cases again
  | @more stream session directive rest fault pulled behind ih =>
      cases also with
      | @ended _ following again | @broken _ following _ again =>
          rw [(pull_alike reads registry session following).1, pulled] at again
          cases again
      | @more _ following _ _ _ again further =>
          obtain ⟨result, next⟩ := pull_alike reads registry session following
          rw [result, pulled] at again
          rw [next] at further
          cases again
          obtain ⟨rfl, rfl⟩ := ih (reads.pull registry session) further
          exact ⟨rfl, rfl⟩

def Yields (registry : Registry C) (stream : Stream C) (directives : List (Directive C))
    (fault : Option Fault) : Prop :=
  ∀ others last, stream.Assembles registry others last ↔ others = directives ∧ last = fault

theorem Assembles.yields {directives : List (Directive C)} {fault : Option Fault}
    (assembles : stream.Assembles registry directives fault) (reads : stream.Lines) :
    stream.Yields registry directives fault := by
  intro others last
  constructor
  · intro also
    exact assembles.unique reads also
  · rintro ⟨rfl, rfl⟩
    exact assembles

end Stream

end ExScript
