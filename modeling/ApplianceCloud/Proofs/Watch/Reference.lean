import ApplianceCloud.Proofs.Interleaving.Surroundings
import ApplianceCloud.Proofs.Status.Failures
import ApplianceCloud.Proofs.Watch.Closing

namespace ApplianceCloud.Watch

open Activity

/-- What the cloud answers to a start, to each poll in order, and to a stop. -/
structure Script where
  start : Except Failure String
  polls : Nat → Except Failure (Option Status)
  stop : Except Failure Unit

namespace Script

def answer (script : Script) : (what : WatchCall) → Nat → Except Failure (remote.Answer what) × Nat
  | .start, polled => (script.start, polled)
  | .poll _, polled => (script.polls polled, polled + 1)
  | .stop _, polled => (script.stop, polled)
  | .pause _, polled => (.ok (), polled)

def others (script : Script) : Surroundings remote Session Nat := .alone script.answer

structure IsOwn (script : Script) : Prop where
  start : ∀ failure, script.start = .error failure → failure.isOwn = true
  polls : ∀ i failure, script.polls i = .error failure → failure.isOwn = true

end Script

def lost (family : Family) (wrap : String → CallFault) : Failure → Except Failure (Option Status)
  | .offline _ => (Status.offline family).map some
  | failure => .error (.call (wrap failure.message))

theorem lost_of_ne_offline {wrap : String → CallFault} {failure : Failure}
    (connected : ∀ cause, failure ≠ .offline cause) (family : Family) :
    lost family wrap failure = .error (.call (wrap failure.message)) := by
  unfold lost
  split
  · exact absurd rfl (connected _)
  · rfl

inductive EndsBy (settings : Settings) (family : Family) :
    Except Failure (Option Status) → Except Failure (Option Status) → Session → Prop where
  | data (status : Status) (retriesLeft : Int) :
      EndsBy settings family (.ok (some status)) (.ok (some status))
        { phase := .stopped, workId := "", retriesLeft }
  | expired (cause : ExpiryCause) :
      EndsBy settings family (.error (.expired cause)) (.ok none) (.fresh settings)
  | failed {failure : Failure} (current : ∀ cause, failure ≠ .expired cause) :
      EndsBy settings family (.error failure) (lost family (.pollFailed settings.device) failure)
        (.fresh settings)

/-- What the answers to at most so many polls come to: the first that brings anything ends the cycle,
and it is the last of the polls. -/
inductive Reference (settings : Settings) (family : Family)
    (answers : Nat → Except Failure (Option Status)) (bound : Nat) :
    Nat → Except Failure (Option Status) → Session → Prop where
  | decided {last : Nat} {result : Except Failure (Option Status)} {state : Session}
      (few : last < bound) (silent : ∀ i < last, answers i = .ok none)
      (brings : answers last ≠ .ok none) (ends : EndsBy settings family (answers last) result state) :
      Reference settings family answers bound (last + 1) result state
  | exhausted (silent : ∀ i < bound, answers i = .ok none) :
      Reference settings family answers bound bound
        (.error (.call (.exhausted settings.device))) (.fresh settings)

def rounds (settings : Settings) (workId : String) (count : Nat) : List WatchCall :=
  (List.replicate count (.poll workId)).intersperse (.pause settings.interval)

theorem rounds_succ (settings : Settings) (workId : String) (count : Nat) :
    rounds settings workId (count + 1) =
      (if 0 < count then [.poll workId, .pause settings.interval] else [.poll workId]) ++
        rounds settings workId count := by
  cases count with
  | zero => rfl
  | succ count => simp [rounds, List.replicate_succ]

namespace Reference

variable {settings : Settings} {family : Family} {answers : Nat → Except Failure (Option Status)}
  {bound count : Nat} {result : Except Failure (Option Status)} {state : Session}

theorem pos_iff (reference : Reference settings family answers bound count result state) :
    0 < count ↔ 0 < bound := by
  cases reference with
  | decided few => omega
  | exhausted => rfl

theorem succ (silent : answers 0 = .ok none)
    (reference : Reference settings family (fun i => answers (i + 1)) bound count result state) :
    Reference settings family answers (bound + 1) (count + 1) result state := by
  have extend {size : Nat} (later : ∀ i < size, answers (i + 1) = .ok none) :
      ∀ i < size + 1, answers i = .ok none := by
    intro i few
    cases i with
    | zero => exact silent
    | succ i => exact later i (Nat.lt_of_succ_lt_succ few)
  cases reference with
  | decided few later brings ends => exact .decided (Nat.succ_lt_succ few) (extend later) brings ends
  | exhausted later => exact .exhausted (extend later)

theorem count_eq (reference : Reference settings family answers bound count result state) {first : Nat}
    (silent : ∀ i < first, answers i = .ok none) (brings : answers first ≠ .ok none) :
    count = min bound (first + 1) := by
  cases reference with
  | @decided last _ _ few before here =>
    have same : last = first := by
      rcases Nat.lt_trichotomy last first with less | same | more
      · exact absurd (silent last less) here
      · exact same
      · exact absurd (before first more) brings
    omega
  | exhausted before =>
    have most : bound ≤ first := Nat.le_of_not_lt fun less => brings (before first less)
    omega

end Reference

section Steps

variable {script : Script} {settings : Settings} {family : Family} {session : Session} {polled : Nat}
  {workId : String}

theorem answerTo_bind_scripted {α : Type} (what : WatchCall)
    {next : Except Failure (remote.Answer what) → Watching α} :
    (answerTo what >>= next).among script.others session polled =
      ((next (script.answer what polled).1).among script.others session
        (script.answer what polled).2).behind [what] := by
  rw [answerTo, among_attempt_bind, among_ask]
  rfl

theorem close_scripted (named : workId ≠ "") :
    (close workId).among script.others session polled =
      { result := .ok (), state := session, world := polled, calls := [.stop workId] } := by
  rw [close, if_neg named]
  rfl

theorem abandon_unopened (unnamed : session.workId = "") :
    (abandon settings "").among script.others session polled =
      { result := .ok (), state := .fresh settings, world := polled } := by
  rw [abandon, among_gets_bind]
  simp only [id, if_true, unnamed, close]
  rfl

theorem abandon_scripted {given : String} (named : workId ≠ "")
    (closes : (if given = "" then session.workId else given) = workId) :
    (abandon settings given).among script.others session polled =
      { result := .ok (), state := .fresh settings, world := polled, calls := [.stop workId] } := by
  rw [abandon, among_gets_bind]
  simp only [id, closes]
  rw [among_bind, close_scripted named]
  rfl

theorem endBy_scripted {wrap : String → CallFault} {failure : Failure} (own : failure.isOwn = true)
    {calls : List WatchCall} (abandons : (abandon settings "").among script.others session polled =
      { result := .ok (), state := .fresh settings, world := polled, calls }) :
    (endBy settings family wrap failure).among script.others session polled =
      { result := lost family wrap failure, state := .fresh settings, world := polled, calls } := by
  unfold endBy
  split
  · rw [among_bind, abandons, Ending.then_of_ok rfl, among_map, among_lift]
    simp [lost, Ending.behind]
  · next other =>
    rw [if_pos own, among_bind, abandons, Ending.then_of_ok rfl]
    cases failure with
    | offline cause => exact absurd rfl (other cause)
    | _ => simp [lost, Ending.behind]

theorem exhaust_scripted (known : session.workId = workId) (named : workId ≠ "") :
    (exhaust settings).among script.others session polled =
      { result := .error (.call (.exhausted settings.device)), state := .fresh settings,
        world := polled, calls := [.stop workId] } := by
  rw [exhaust, among_bind, abandon_scripted named ((if_pos rfl).trans known)]
  rfl

theorem move_scripted {phase : Phase} {given : String} {moved : Session}
    (moves : session.move settings phase given = .ok moved) :
    (move settings phase given).among script.others session polled =
      { result := .ok (), state := moved, world := polled } := by
  rw [move, among_gets_bind]
  simp only [id, moves]
  rfl

theorem polls_exhausted {bound : Nat} (known : session.workId = workId) (named : workId ≠ "")
    (none : session.retriesLeft ≤ 0) :
    (polls settings family workId bound).among script.others session polled =
      { result := .error (.call (.exhausted settings.device)), state := .fresh settings,
        world := polled, calls := [.stop workId] } := by
  cases bound with
  | zero => exact exhaust_scripted known named
  | succ bound =>
    rw [polls, among_gets_bind]
    simp only [id, none, if_true]
    exact exhaust_scripted known named

theorem polls_scripted (family : Family) {bound : Nat} (own : script.IsOwn)
    (isOpen : session.phase.isOpen = true) (known : session.workId = workId) (named : workId ≠ "")
    (left : session.retriesLeft = bound + 1) (polled : Nat) :
    (script.polls polled = .ok none →
      (polls settings family workId (bound + 1)).among script.others session polled =
        ((polls settings family workId bound).among script.others
            { session with phase := .polling, retriesLeft := bound } (polled + 1)).behind
          (if 0 < bound then [.poll workId, .pause settings.interval] else [.poll workId] :
            List WatchCall)) ∧
    (script.polls polled ≠ .ok none → ∃ result state,
      EndsBy settings family (script.polls polled) result state ∧
      (polls settings family workId (bound + 1)).among script.others session polled =
        { result, state, world := polled + 1, calls := [.poll workId, .stop workId] }) := by
  have moves : session.move settings .polling "" = .ok { session with phase := .polling } :=
    Session.move_ok (Phase.polling_mem_next isOpen) (by simp)
  have some : ¬ session.retriesLeft ≤ 0 := by omega
  rw [polls, among_gets_bind]
  simp only [id, some, if_false]
  rw [among_bind, move_scripted moves, Ending.then_of_ok rfl, answerTo_bind_scripted, Ending.behind_nil]
  dsimp only [Script.answer]
  cases answered : script.polls polled with
  | ok status? =>
    cases status? with
    | none =>
      refine ⟨fun _ => ?_, fun data => absurd rfl data⟩
      have remaining : session.retriesLeft - 1 = bound := by omega
      rw [among_modify_bind, among_gets_bind]
      simp only [id, remaining, Int.natCast_pos]
      split
      · rfl
      · rfl
    | some status =>
      refine ⟨fun silent => ?_, fun _ => ⟨_, _, .data status session.retriesLeft, ?_⟩⟩
      · cases silent
      · have stops : Session.move settings { session with phase := .polling } .stopped "" =
          .ok { session with phase := .stopped, workId := "" } := rfl
        dsimp only
        rw [among_bind, close_scripted named, Ending.then_of_ok rfl, among_bind, move_scripted stops]
        rfl
  | error failure =>
    refine ⟨fun silent => ?_, fun _ => ?_⟩
    · cases silent
    · by_cases expired : ∃ cause, failure = .expired cause
      · obtain ⟨cause, rfl⟩ := expired
        refine ⟨_, _, .expired cause, ?_⟩
        have expires : Session.move settings { session with phase := .polling } .expired "" =
          .ok { session with phase := .expired, workId := "" } := rfl
        dsimp only
        rw [among_bind, move_scripted expires, Ending.then_of_ok rfl, among_bind,
          abandon_scripted named (if_neg named)]
        rfl
      · push Not at expired
        refine ⟨_, _, .failed expired, ?_⟩
        have abandons : (abandon settings "").among script.others { session with phase := .polling }
            (polled + 1) = _ :=
          abandon_scripted named ((if_pos rfl).trans known)
        have ends : (endBy settings family (.pollFailed settings.device) failure).among script.others
            { session with phase := .polling } (polled + 1) = _ :=
          endBy_scripted (own.polls polled failure answered) abandons
        cases failure with
        | expired cause => exact absurd rfl (expired cause)
        | _ => exact congrArg (Ending.behind _) ends

theorem polls_among (family : Family) (own : script.IsOwn) (named : workId ≠ "") (bound : Nat)
    (isOpen : session.phase.isOpen = true) (known : session.workId = workId)
    (left : session.retriesLeft.toNat = bound) (polled : Nat) : ∃ count result state,
      Reference settings family (fun i => script.polls (polled + i)) bound count result state ∧
      (polls settings family workId bound).among script.others session polled =
        { result, state, world := polled + count,
          calls := rounds settings workId count ++ [.stop workId] } := by
  induction bound generalizing session polled with
  | zero =>
    exact ⟨_, _, _, .exhausted nofun, polls_exhausted known named (Int.toNat_eq_zero.1 left)⟩
  | succ bound ih =>
    have left : session.retriesLeft = bound + 1 := by omega
    obtain ⟨goesOn, ends⟩ := polls_scripted family own isOpen known named left polled
    by_cases silent : script.polls polled = .ok none
    · obtain ⟨count, result, state, reference, later⟩ :=
        @ih { session with phase := .polling, retriesLeft := bound } rfl known
          (Int.toNat_natCast bound) (polled + 1)
      refine ⟨count + 1, result, state, ?_, ?_⟩
      · apply Reference.succ silent
        simpa only [Nat.add_assoc, Nat.add_comm 1] using reference
      · rw [goesOn silent, later, rounds_succ, List.append_assoc]
        simp only [Ending.behind, reference.pos_iff, Nat.add_assoc, Nat.add_comm 1]
    · obtain ⟨result, state, ends, ended⟩ := ends silent
      exact ⟨1, result, state, .decided (Nat.succ_pos bound) nofun silent ends, ended⟩

theorem pollOpen_among (family : Family) (own : script.IsOwn) (isOpen : session.phase.isOpen = true)
    (known : session.workId = workId) (named : workId ≠ "") : ∃ count result state,
      Reference settings family script.polls settings.retries.toNat count result state ∧
      (pollOpen settings family settings.retries.toNat).among script.others session 0 =
        { result, state, world := count, calls := rounds settings workId count ++ [.stop workId] } := by
  subst known
  rw [pollOpen, among_gets_bind, among_modify_bind]
  obtain ⟨count, result, state, reference, ended⟩ :=
    @polls_among script settings { session with retriesLeft := settings.retries } _ family own named _
      isOpen rfl rfl 0
  simp only [Nat.zero_add] at reference ended
  exact ⟨count, result, state, reference, ended⟩

theorem locked_among {α : Type} (activity : Watching α) :
    activity.locked.among script.others session polled =
      activity.among script.others session polled := among_locked script.others activity

theorem Session.IsClosed.isOpen_eq_false (closed : session.IsClosed) : session.phase.isOpen = false := by
  obtain ⟨-, idle | stopped⟩ := closed
  · rw [idle]
    rfl
  · rw [stopped]
    rfl

theorem snapshot_unstarted {failure : Failure} (closed : session.IsClosed) (own : script.IsOwn)
    (fails : script.start = .error failure) :
    (snapshot settings family).among script.others session 0 =
      { result := lost family (.startFailed settings.device) failure, state := .fresh settings,
        world := 0, calls := [.start] } := by
  rw [snapshot, locked_among, cycle, among_gets_bind]
  simp only [id, closed.isOpen_eq_false, Bool.false_eq_true, if_false]
  rw [answerTo_bind_scripted]
  dsimp only [Script.answer]
  rw [fails, endBy_scripted (own.start failure fails) (abandon_unopened closed.1)]
  rfl

theorem snapshot_started (settings : Settings) (family : Family) (closed : session.IsClosed)
    (own : script.IsOwn) (begins : script.start = .ok workId) (named : workId ≠ "") :
    ∃ count result state,
      Reference settings family script.polls settings.retries.toNat count result state ∧
      (snapshot settings family).among script.others session 0 =
        { result, state, world := count,
          calls := .start :: (rounds settings workId count ++ [.stop workId]) } := by
  have moves : session.move settings .started workId = .ok (session.enter settings .started workId) :=
    Session.move_ok (Phase.started_mem_next closed.isOpen_eq_false) fun _ => named
  obtain ⟨count, result, state, reference, ended⟩ :=
    @pollOpen_among script settings (session.enter settings .started workId) workId family own rfl rfl
      named
  refine ⟨count, result, state, reference, ?_⟩
  rw [snapshot, locked_among, cycle, among_gets_bind]
  simp only [id, closed.isOpen_eq_false, Bool.false_eq_true, if_false]
  rw [answerTo_bind_scripted]
  dsimp only [Script.answer]
  rw [begins, among_bind, move_scripted moves, Ending.then_of_ok rfl, ended]
  rfl

/-- One cycle on a closed session comes to what its reference says, whatever the cloud answers with
failures of this library only. A start that fails is the only call. Otherwise the polls go on to the
first that brings anything, or as often as they may, with a pause between two of them, and the work is
closed. -/
theorem snapshot_scripted (settings : Settings) (family : Family) (closed : session.IsClosed)
    (own : script.IsOwn) (named : script.start ≠ .ok "") :
    let ending := (snapshot settings family).among script.others session 0
    let retries := settings.retries.toNat
    (∀ failure, script.start = .error failure →
      ending.calls = [.start] ∧ ending.state = .fresh settings ∧
      ending.result = lost family (.startFailed settings.device) failure) ∧
    (∀ workId, script.start = .ok workId → ∃ count,
      ending.calls = .start :: (rounds settings workId count ++ [.stop workId]) ∧
      Reference settings family script.polls retries count ending.result ending.state ∧
      (∀ first, (∀ i < first, script.polls i = .ok none) → script.polls first ≠ .ok none →
        count = min retries (first + 1)) ∧
      ((∀ i, script.polls i = .ok none) → count = retries)) ∧
    (∀ failure, (∀ cause, failure ≠ .offline cause) →
      ∀ wrap ∈ [CallFault.startFailed settings.device, .pollFailed settings.device],
        ∃ fault, lost family wrap failure = .error (.call fault) ∧ fault.kind = .invalidResponse) ∧
    (CallFault.exhausted settings.device).kind = .exhaustedRetries ∧
    ∀ document requested unit, Capability.ofDocument document requested = .ok unit →
      ∀ wrap cause, lost unit.family wrap (.offline cause) =
        .ok (some { family := unit.family, online := false }) := by
  intro ending retries
  refine ⟨?_, ?_, ?_, rfl, ?_⟩
  · intro failure fails
    have ended : ending = _ := snapshot_unstarted closed own fails
    rw [ended]
    exact ⟨rfl, rfl, rfl⟩
  · intro workId begins
    have known : workId ≠ "" := by
      rintro rfl
      exact named begins
    obtain ⟨count, result, state, reference, ended⟩ :=
      snapshot_started settings family closed own begins known
    have ended : ending = _ := ended
    rw [ended]
    refine ⟨count, rfl, reference, fun first => reference.count_eq, fun silent => ?_⟩
    cases reference with
    | decided few before brings => exact absurd (silent _) brings
    | exhausted => rfl
  · intro failure connected wrap member
    refine ⟨_, lost_of_ne_offline connected family, ?_⟩
    simp only [List.mem_cons, List.not_mem_nil, or_false] at member
    obtain rfl | rfl := member
    · rfl
    · rfl
  · intro document requested unit described wrap cause
    rw [lost, Status.offline_of_ofDocument described]
    rfl

end Steps

def sampleScript : Script where
  start := .ok "work"
  polls i := if i < 2 then .ok none else .error (.offline .disconnected)
  stop := .error (.foreign "OSError" "")

theorem snapshot_scripted_sample :
    let settings : Settings := { device := "unit", retries := 3 }
    let session : Session := { phase := .stopped, workId := "", retriesLeft := 1 }
    let ending := (snapshot settings .dryer).among sampleScript.others session 0
    session.IsClosed ∧ sampleScript.IsOwn ∧ sampleScript.start ≠ .ok "" ∧
      ending.calls = [.start, .poll "work", .pause settings.interval, .poll "work",
        .pause settings.interval, .poll "work", .stop "work"] ∧
      ending.result = .ok (some { family := .dryer, online := false }) ∧
      ending.state = .fresh settings := by
  intro settings session ending
  have closed : session.IsClosed := ⟨rfl, .inr rfl⟩
  have own : sampleScript.IsOwn := by
    refine ⟨nofun, fun i failure fails => ?_⟩
    simp only [sampleScript] at fails
    split at fails
    · cases fails
    · cases fails
      rfl
  have named : sampleScript.start ≠ .ok "" := by simp [sampleScript]
  have silent : ∀ i < 2, sampleScript.polls i = .ok none := fun i few => if_pos few
  obtain ⟨-, cycles, -⟩ := snapshot_scripted settings .dryer closed own named
  obtain ⟨count, calls, reference, counted, -⟩ := cycles "work" rfl
  have three : count = 3 := counted 2 silent nofun
  subst three
  refine ⟨closed, own, named, calls, ?_⟩
  generalize ending.result = result at reference ⊢
  generalize ending.state = state at reference ⊢
  cases reference with
  | decided few before brings ends =>
    cases ends with
    | failed => exact ⟨rfl, rfl⟩
  | exhausted before => cases before 2 (by decide)

end ApplianceCloud.Watch
