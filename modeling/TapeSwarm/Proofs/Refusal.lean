import TapeSwarm.Proofs.Entity.Coherence
import TapeSwarm.Proofs.Machine.Reachable

/-!
# What refused sources leave behind

Loading, feeding, clean runs and assignments to entities all read a source first, or next to first.
Where it is no tape, they answer with the fault. Nothing is taken over by halves: loading, feeding
and assigning leave everything as it was, and a clean run leaves the reset that comes before its
reading.

So refused sources can be struck from a history, with a reset in the place of a clean run
(`after_settled`). A machine that a refused clean run has reset is idle and not loaded, but no run
looks at the status: it replays the program it has kept, with the bytes that are still queued, as a
new machine would.

Result: `refused_sources_change_nothing`.
-/

namespace TapeSwarm

/-- Whether a source is a tape. -/
def Source.isTape (source : Source) : Bool :=
  source.read.isOk

theorem Source.isTape_of_read {source : Source} {tape : Tape} (read : source.read = .ok tape) :
    source.isTape = true := by
  rw [isTape, read]
  rfl

theorem Source.not_isTape_of_read {source : Source} {fault : TapeFault}
    (read : source.read = .error fault) : source.isTape = false := by
  rw [isTape, read]
  rfl

/-! ## Machines -/

namespace Machine

variable {size : Nat}

/-- How a machine deals with a source that is no tape. -/
structure Refuses (m : Machine size) (source : Source) (fault : TapeFault) : Prop where
  load : m.respond (.load source) = ⟨m, .error fault, []⟩
  feed : m.respond (.feed source) = ⟨m, .error fault, []⟩
  execute : ∀ budget patternSize, m.respond (.execute source budget patternSize) =
    ⟨(m.respond .reset).machine, .error fault, []⟩

theorem refuses_of_read (m : Machine size) {source : Source} {fault : TapeFault}
    (read : source.read = .error fault) : m.Refuses source fault where
  load := by rw [respond, read]
  feed := by rw [respond, read]
  execute budget patternSize := by
    simp only [respond, Machine.execute, read]
    rfl

/-- A request without refused sources: what is left of it for a machine to do. -/
def Request.settled (request : Request) : List Request :=
  match request with
  | .reset | .step | .run _ => [request]
  | .load source | .feed source => if source.isTape then [request] else []
  | .execute source _ _ => if source.isTape then [request] else [.reset]

/-- A request either is settled and meets no fault, or comes to what is left of it. -/
theorem settled_cases (request : Request) :
    (request.settled = [request] ∧
        ∀ m : Machine size, (m.respond request).reply.isOk = true) ∨
      (request.settled = [] ∧ ∀ m : Machine size, (m.respond request).machine = m) ∨
      (request.settled = [.reset] ∧ ∀ m : Machine size, (m.respond request).machine = m.reset) := by
  cases request with
  | reset | step | run budget => exact .inl ⟨rfl, fun m => rfl⟩
  | load source =>
    cases read : source.read with
    | ok tape =>
      refine .inl ⟨if_pos (Source.isTape_of_read read), fun m => ?_⟩
      simp only [respond, read]
      rfl
    | error fault =>
      refine .inr (.inl ⟨?_, fun m => congrArg _ (m.refuses_of_read read).load⟩)
      rw [Request.settled, Source.not_isTape_of_read read]
      rfl
  | feed source =>
    cases read : source.read with
    | ok values =>
      refine .inl ⟨if_pos (Source.isTape_of_read read), fun m => ?_⟩
      simp only [respond, read]
      rfl
    | error fault =>
      refine .inr (.inl ⟨?_, fun m => congrArg _ (m.refuses_of_read read).feed⟩)
      rw [Request.settled, Source.not_isTape_of_read read]
      rfl
  | execute source budget patternSize =>
    cases read : source.read with
    | ok tape =>
      refine .inl ⟨if_pos (Source.isTape_of_read read), fun m => ?_⟩
      simp only [respond, Machine.execute, read]
      rfl
    | error fault =>
      -- the reset is done before the source is read
      refine .inr (.inr ⟨?_, fun m => congrArg _ ((m.refuses_of_read read).execute _ _)⟩)
      rw [Request.settled, Source.not_isTape_of_read read]
      rfl

theorem after_settled_request (m : Machine size) (request : Request) :
    m.after request.settled = (m.respond request).machine := by
  rcases @settled_cases size request with ⟨left, _⟩ | ⟨left, same⟩ | ⟨left, cleared⟩
  · rw [left]
    rfl
  · rw [left, same]
    rfl
  · rw [left, cleared]
    rfl

/-- A settled history meets no fault, on whatever machine. -/
theorem isOk_reply_of_mem_settled {request asked : Request} (member : request ∈ asked.settled)
    (m : Machine size) : (m.respond request).reply.isOk = true := by
  rcases @settled_cases size asked with ⟨left, taken⟩ | ⟨left, _⟩ | ⟨left, _⟩
  · rw [left] at member
    obtain rfl := List.mem_singleton.mp member
    exact taken m
  · rw [left] at member
    contradiction
  · rw [left] at member
    obtain rfl := List.mem_singleton.mp member
    rfl

theorem after_settled (m : Machine size) (history : List Request) :
    m.after (history.flatMap Request.settled) = m.after history := by
  induction history generalizing m with
  | nil => rfl
  | cons request rest ih =>
    calc
      m.after (request.settled ++ rest.flatMap Request.settled) =
          (m.after request.settled).after (rest.flatMap Request.settled) := List.foldl_append
      _ = (m.respond request).machine.after (rest.flatMap Request.settled) := by
        rw [after_settled_request]
      _ = m.after (request :: rest) := ih _

/-- A machine that was reset runs its program as a new one that was fed the same bytes runs it. -/
theorem Consistent.run_reset {m : Machine size} (consistent : m.Consistent) (positive : 0 < size)
    (budget : Budget) :
    m.reset.run budget =
      ((blank size positive).after
        [.feed (.bytes m.input), .load (.bytes m.program)]).run budget := by
  -- the table is the program's own, so loading the program again would only change the status
  have kept : m.reset = (m.reset.load m.program).relabel 0 .idle := by
    rw [Machine.load, ← consistent.brackets]
    rfl
  rw [kept, run_relabel]
  rfl

end Machine

/-! ## Entities -/

namespace Entity

/-- Whether a request is more than a source that is refused. -/
def Request.isTaken : Request → Bool
  | .assign source => source.isTape
  | .configure _ | .update | .execute => true

theorem assign_of_read (e : Entity) {source : Source} {fault : TapeFault}
    (read : source.read = .error fault) : e.assign source = (e, .error fault) := by
  rw [assign, read]

theorem respond_of_not_isTaken (e : Entity) {request : Request}
    (refused : request.isTaken = false) : e.respond request = e := by
  cases request with
  | configure settings => contradiction
  | update => contradiction
  | execute => contradiction
  | assign source =>
    cases read : source.read with
    | ok tape =>
      have taken : source.isTape = true := Source.isTape_of_read read
      exact absurd (taken.symm.trans refused) (by decide)
    | error fault => exact congrArg Prod.fst (e.assign_of_read read)

theorem after_filter_isTaken (e : Entity) (history : List Request) :
    e.after (history.filter Request.isTaken) = e.after history := by
  induction history generalizing e with
  | nil => rfl
  | cons request rest ih =>
    cases taken : request.isTaken with
    | true =>
      rw [List.filter_cons_of_pos taken]
      exact ih (e.respond request)
    | false =>
      have unchanged := e.respond_of_not_isTaken taken
      rw [List.filter_cons_of_neg (by simp [taken])]
      calc
        e.after (rest.filter Request.isTaken) = e.after rest := ih e
        _ = (e.respond request).after rest := by rw [unchanged]

end Entity

/-! ## All of it -/

/-- What a source that is no tape leaves behind, for machines after any history and all entities.
Loading and feeding it, a machine stays as it was, and so does an entity that it is assigned to. A
clean run of it leaves the machine that a reset alone leaves, which has kept its program, the
bracket table of that and its queue, and runs the program as a new machine with the same queue runs
it. All of them answer with the fault. A history comes to the same without such sources. -/
theorem refused_sources_change_nothing {size : Nat} (positive : 0 < size) {source : Source}
    {fault : TapeFault} (refused : source.read = .error fault) :
    (∀ history : List Machine.Request,
      let start := Machine.blank size positive
      let m := start.after history
      let cleared := (m.respond .reset).machine
      let fresh := start.after [.feed (.bytes m.input), .load (.bytes m.program)]
      m.respond (.load source) = ⟨m, .error fault, []⟩ ∧
        m.respond (.feed source) = ⟨m, .error fault, []⟩ ∧
        (∀ budget patternSize,
          m.respond (.execute source budget patternSize) = ⟨cleared, .error fault, []⟩) ∧
        cleared.program = m.program ∧ cleared.brackets = m.brackets ∧
        m.brackets = Brackets.ofTape m.program ∧ cleared.input = m.input ∧
        (∀ budget, cleared.respond (.run budget) = fresh.respond (.run budget)) ∧
        start.after (history.flatMap Machine.Request.settled) = m ∧
        ∀ request ∈ history.flatMap Machine.Request.settled, ∀ other : Machine size,
          (other.respond request).reply.isOk = true) ∧
    (∀ e : Entity, e.assign source = (e, .error fault)) ∧
    ∀ (e : Entity) (history : List Entity.Request),
      e.after (history.filter Entity.Request.isTaken) = e.after history := by
  refine ⟨fun history => ?_, fun e => e.assign_of_read refused, Entity.after_filter_isTaken⟩
  intro start m cleared fresh
  have consistent : m.Consistent := (Machine.consistent_blank positive).after history
  obtain ⟨load, feed, execute⟩ := m.refuses_of_read refused
  refine ⟨load, feed, execute, rfl, rfl, consistent.brackets, rfl, fun budget => ?_,
    start.after_settled history, fun request member other => ?_⟩
  · have same : cleared.run budget = fresh.run budget := consistent.run_reset positive budget
    simp only [Machine.respond, same]
  · obtain ⟨asked, _, settled⟩ := List.mem_flatMap.mp member
    exact Machine.isOk_reply_of_mem_settled settled other

/-- A list with a number beyond the bytes. -/
def tooGreat : Source :=
  .items .list [.integer 43, .integer 256, .other]

theorem refused_sources_change_nothing_midLoop :
    let m := (Machine.blank 2 Nat.two_pos).after Machine.usedHistory
    let cleared := (m.respond .reset).machine
    let e := Entity.new [43, 46] .organism none none {}
    let fresh := (Machine.blank 2 Nat.two_pos).after [.feed (.bytes [8]), .load (.bytes m.program)]
    0 < 2 ∧ tooGreat.read = .error .itemOutOfRange ∧
      (m.memory.toList, m.codePointer, m.status) = ([7, 255], 2, .running) ∧
      m.respond (.load tooGreat) = ⟨m, .error .itemOutOfRange, []⟩ ∧
      m.respond (.execute tooGreat (.ofInt 9) 1) = ⟨cleared, .error .itemOutOfRange, []⟩ ∧
      cleared.program = m.program ∧ cleared.input = [8] ∧
      cleared.respond (.run (.ofInt 5)) = fresh.respond (.run (.ofInt 5)) ∧
      (cleared.respond (.run (.ofInt 5))).machine.memory.toList = [8, 255] ∧
      e.assign tooGreat = (e, .error .itemOutOfRange) := by
  intro m cleared e fresh
  have read : tooGreat.read = .error .itemOutOfRange := rfl
  obtain ⟨machines, entities, _⟩ := refused_sources_change_nothing Nat.two_pos read
  obtain ⟨load, _, execute, program, _, _, queue, replay, _⟩ := machines Machine.usedHistory
  have queued : m.input = [8] := by decide
  exact ⟨Nat.two_pos, read, by decide, load, execute _ _, program, queue.trans queued, replay _,
    by decide, entities e⟩

end TapeSwarm
